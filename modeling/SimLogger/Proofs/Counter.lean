import SimLogger.Proofs.Prune

/-! The counter `bytes_written` against the base file. In every reachable state an open handle
is on the base file, a regular file. Along runs in which every `fseek`, every `fflush` and every
`fwrite` succeeds, the counter is the file's length plus what the handle's stdio buffer still
holds. A failed `fflush` or `fwrite` drops buffered bytes that were counted, so the counter runs
ahead of the file; a failed seek when the file is opened counts what it already holds as
nothing, so the counter falls behind. -/

namespace SimLogger

/-- The I/O of a call that keeps the counter exact. -/
def Io.Exact (io : Io) : Prop :=
  io.fseekOk = true ∧ io.fflush = .done ∧ io.payload.succeeds = true ∧ io.newline.succeeds = true

/-- The counter invariant: the sink names the base file, and an open handle is on it, a
regular file; under `exact` the counter is its length plus the buffer's. -/
structure CounterInv (cfg : Config) (exact : Prop) (s : Sink) : Prop where
  path : s.path = cfg.basePath
  file : ∀ n, s.file = some n → n = cfg.basePath ∧ ∃ c, s.dir cfg.basePath = some (.regular c) ∧
    (exact → s.bytesWritten = c.length + s.buf.length)

section

variable {cfg : Config} {E : Prop} {s : Sink} {io : Io}

theorem CounterInv.of_closed (hp : s.path = cfg.basePath) (hf : s.file = none) : CounterInv cfg E s :=
  ⟨hp, fun n h => by simp [hf] at h⟩

theorem CounterInv.mono (h : CounterInv cfg E s) {E' : Prop} (hE : E' → E) : CounterInv cfg E' s :=
  ⟨h.path, fun n hn => (h.file n hn).imp_right fun ⟨c, hc, he⟩ => ⟨c, hc, he ∘ hE⟩⟩

theorem CounterInv.closed (h : CounterInv cfg E s) : CounterInv cfg E s.closed :=
  .of_closed ((Sink.closed_path s).trans h.path) (Sink.closed_file s)

/-- Handing `t` to the file and keeping `b` in the buffer while counting `k` more bytes; under
`exact`, what moved and what is held are the old buffer and the `k` bytes counted. -/
theorem CounterInv.append (h : CounterInv cfg E s) {n : List Char} (hf : s.file = some n)
    (t b : List Char) (k : Nat) (hk : E → t.length + b.length = s.buf.length + k) :
    CounterInv cfg E { s with dir := s.dir.append n t, buf := b, bytesWritten := s.bytesWritten + k } := by
  obtain ⟨rfl, c, hc, heq⟩ := h.file n hf
  refine ⟨h.path, fun m hm => ⟨(h.file m hm).1, c ++ t, by simp [Dir.append_of_regular hc], fun e => ?_⟩⟩
  have := heq e
  have := hk e
  simp only [List.length_append]
  omega

theorem CounterInv.flushed (h : CounterInv cfg E s) : CounterInv cfg E s.flushed := by
  rcases hf : s.file with _ | n
  · rwa [Sink.flushed, Sink.drain_of_none s hf]
  · rw [Sink.flushed_of_some s hf]
    simpa only [Nat.add_zero] using h.append hf s.buf [] 0 fun _ => by simp

/-- Moving the first `k` buffered bytes to the file and dropping the rest, all of it under
`exact`. -/
theorem CounterInv.drain (h : CounterInv cfg E s) (k : Nat) (hk : E → s.drain k = s.flushed) :
    CounterInv cfg E (s.drain k) := by
  by_cases hE : E
  · rw [hk hE]; exact h.flushed
  rcases hf : s.file with _ | n
  · rwa [Sink.drain_of_none s hf]
  · rw [Sink.drain_of_some s hf]
    simpa only [Nat.add_zero] using h.append hf (s.buf.take k) [] 0 fun e => absurd e hE

/-- Opening the base file with `fopen(.., "a")` and seeding the counter from its size. -/
theorem CounterInv.opened {d : Dir} (hd : s.dir.openAppend cfg.basePath = some d)
    (hp : s.path = cfg.basePath) (hio : E → io.fseekOk = true) :
    CounterInv cfg E { s with dir := d, file := some cfg.basePath, buf := [],
                              bytesWritten := fileSizeOrZero d (some cfg.basePath) io } := by
  refine ⟨hp, fun n hn => ⟨(Option.some.inj hn).symm, ?_⟩⟩
  unfold Dir.openAppend at hd
  split at hd <;> cases hd
  · exact ⟨[], by simp, fun _ => by simp [fileSizeOrZero, Dir.size]⟩
  · rename_i c hc
    exact ⟨c, hc, fun e => by simp [fileSizeOrZero, hio e, Dir.size_of_regular hc]⟩

theorem flushLocked_inv (h : CounterInv cfg E s) (hio : E → io.Exact) :
    CounterInv cfg E (stateOf (flushLocked cfg io s)) := by
  obtain ⟨k, hk⟩ := stateOf_flushLocked s io cfg
  rw [hk]
  exact h.drain k fun e => hk.symm.trans (stateOf_flushLocked_of_done s io cfg (hio e).2.1)

theorem writeLineLocked_inv (h : CounterInv cfg E s) (line : List Char) (hio : E → io.Exact) :
    CounterInv cfg E (stateOf (writeLineLocked line io s)) := by
  rcases hf : s.file with _ | n
  · rwa [writeLineLocked_none s io line hf]
  rcases writeLineLocked_cases s io line hf with ⟨t, b, htb, hw⟩ | ⟨hfail, t, k, -, -, hw⟩ <;> rw [hw]
  · exact h.append hf t b _ fun _ => by rw [← List.length_append, htb, List.length_append]
  · exact h.append hf t [] k fun e => absurd hfail (by simp [(hio e).2.2.1, (hio e).2.2.2])

/-- A rotation that returns leaves the sink open on a new, empty base file, with nothing
buffered. -/
theorem rotateLocked_ok {s' : Sink} (srt : Sorter) (h : rotateLocked cfg srt io s = .ok () s') :
    s'.path = cfg.basePath ∧ s'.file = some cfg.basePath ∧ s'.dir cfg.basePath = some (.regular []) ∧
      s'.buf = [] ∧ s'.bytesWritten = 0 := by
  rcases rotateLocked_cases cfg srt io s with ⟨e, k, he, -⟩ | ⟨e, he⟩ | ⟨p, d, hu, hd, ⟨e, he⟩ | ⟨d', hd', he⟩⟩ <;>
    rw [he] at h <;> cases h
  have hne : p ≠ cfg.basePath := fun e => by
    obtain ⟨t, ht⟩ := uniqueName_prefix _ _ hu
    have := congrArg List.length (e ▸ ht)
    simp only [List.length_append, List.length_cons] at this
    omega
  rw [Dir.openAppend_of_none (Dir.rename_src hd hne)] at hd'
  cases hd'
  exact ⟨rfl, rfl, by simp [pruneOldRotationsLocked_base], rfl, by simp [fileSizeOrZero, Dir.size]⟩

/-- A rotation fails with the sink flushed as far as `fflush` got, or closed, or leaves it open
on a new, empty base file with nothing buffered. -/
theorem rotateLocked_inv (h : CounterInv cfg E s) (srt : Sorter) (hio : E → io.Exact) :
    CounterInv cfg E (stateOf (rotateLocked cfg srt io s)) := by
  rcases rotateLocked_cases cfg srt io s with ⟨e, k, he, hk⟩ | ⟨e, he⟩ | ⟨p, d, -, -, ⟨e, he⟩ | ⟨d', -, he⟩⟩
  · rw [he]; exact h.drain k fun e => hk (hio e).2.1
  · rw [he]; exact h.flushed.closed
  · rw [he]; exact .of_closed (by simp [h.path]) (Sink.closed_file _)
  · obtain ⟨hp, hf, hd, hb, hw⟩ := rotateLocked_ok srt he
    rw [he]
    exact ⟨hp, fun n hn => ⟨Option.some.inj (hn.symm.trans hf), [], hd, fun _ => by simp [hb, hw]⟩⟩

theorem write_inv (h : CounterInv cfg E s) (srt : Sorter) (line : List Char) (hio : E → io.Exact) :
    CounterInv cfg E (stateOf (write cfg srt line io s)) := by
  rw [write_eq]
  split
  · have hr : CounterInv cfg E (stateOf (rotateLocked cfg srt io s)) := rotateLocked_inv h srt hio
    rcases hrot : rotateLocked cfg srt io s with ⟨_, s'⟩ | ⟨e, s'⟩ <;> rw [hrot] at hr
    · exact writeLineLocked_inv hr line hio
    · exact hr
  · exact writeLineLocked_inv h line hio

theorem call_inv (h : CounterInv cfg E s) (srt : Sorter) (c : Call) (hio : E → io.Exact) :
    CounterInv cfg E (stateOf (call cfg srt c io s)) := by
  cases c with
  | write line => exact write_inv h srt line hio
  | flush => exact flushLocked_inv h hio

theorem init_inv {d : Dir} (hio : E → io.fseekOk = true)
    (h : rotatingFileSinkInit cfg io (Sink.fresh d) = .ok () s) : CounterInv cfg E s := by
  rw [rotatingFileSinkInit_eq, fileSinkInit_eq] at h
  by_cases hb : cfg.basePath = []
  · simp [hb] at h
  simp only [if_neg hb, openLockedOrThrow_eq] at h
  split at h
  · simp at h
  rename_i s1 hs1
  have hs : s1 = s := by split at h <;> cases h; rfl
  subst hs
  split at hs1
  · cases hs1
  rename_i d' hd'
  cases hs1
  have hd : d.openAppend cfg.basePath = some d' := by
    cases hfo : io.fopenOk <;> simp only [hfo, ite_true, ite_false] at hd'
    · cases hd'
    · exact hd'
  exact CounterInv.opened (s := { Sink.fresh d with path := cfg.basePath }) hd rfl hio

end

end SimLogger
