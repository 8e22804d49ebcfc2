import SimLogger.Proofs.Preserve
import SimLogger.Proofs.Timestamp

/-! What the sink never touches. It writes only to the base file, renames the base file only
onto a name built from `base_path_`, a timestamp and a sequence number, and removes only files
whose names `parse_rotation_suffix` accepts. So, while libstdc++'s count of nanoseconds has not
wrapped and `make_timestamp_utc` prints its fixed shape, every entry of the directory other
than the base file and its rotation names keeps its content through the constructor and every
run of calls, whatever fails. Each name is an entry of its own here, so this says nothing about
a link that aliases the base file. -/

namespace SimLogger

/-- A name the sink may change: neither the base file nor one of its rotation names. -/
def Foreign (base n : List Char) : Prop := n ≠ base ∧ parseRotationSuffix n base = none

section Probe

variable (taken : List Char → Bool) (rb : List Char)

theorem probeLoop_eq (ks : List Nat) (last : List Char) :
    probeLoop taken rb ks last = last ∨ ∃ k ∈ ks, probeLoop taken rb ks last = seqName rb k := by
  induction ks generalizing last with
  | nil => exact .inl rfl
  | cons k ks ih =>
    rw [probeLoop]
    split
    · rcases ih (seqName rb k) with h | ⟨j, hj, h⟩
      · exact .inr ⟨k, List.mem_cons_self _ _, h⟩
      · exact .inr ⟨j, List.mem_cons_of_mem _ hj, h⟩
    · exact .inr ⟨k, List.mem_cons_self _ _, rfl⟩

/-- The probe returns the bare name or a `.k` name with `k < 10000`. -/
theorem uniqueName_eq_some {p : List Char} (h : uniqueName taken rb = some p) :
    p = rb ∨ ∃ k, k < 10000 ∧ p = seqName rb k := by
  unfold uniqueName at h
  split at h
  · dsimp only at h
    split at h
    · cases h
    · cases h
      rcases probeLoop_eq taken rb (List.range' 1 9999) rb with h | ⟨k, hk, h⟩
      · exact .inl h
      · exact .inr ⟨k, by have := (List.mem_range'_1.mp hk).2; omega, h⟩
  · cases h; exact .inl rfl

end Probe

/-- Before the clock wraps, every name the probe can return is a rotation name. -/
theorem uniqueName_parse {taken : List Char → Bool} {base p : List Char} {t n : Nat} (ht : BeforeWrap t n)
    (h : uniqueName taken (base ++ '.' :: makeTimestampUtc t n) = some p) : parseRotationSuffix p base ≠ none := by
  have hts := makeTimestampUtc_shape ht
  rcases uniqueName_eq_some _ _ h with rfl | ⟨k, hk, rfl⟩
  · rw [parseRotationSuffix_eq_some.mpr ⟨hts, .inl ⟨rfl, rfl⟩⟩]; exact Option.some_ne_none _
  · rw [parseRotationSuffix_seqName hts (by omega)]; exact Option.some_ne_none _

/-- The prune removes only names that parse. -/
theorem pruneOldRotationsLocked_of_parse_none (cfg : Config) (srt : Sorter) (io : Io) (d : Dir)
    {n : List Char} (hn : parseRotationSuffix n cfg.basePath = none) :
    pruneOldRotationsLocked cfg srt io d n = d n := by
  by_contra h
  unfold pruneOldRotationsLocked at h
  split at h
  · exact h rfl
  · rcases hscan : io.scan with _ | listing
    · simp [hscan] at h
    · obtain ⟨-, c, hc, rfl⟩ := pruneOldRotationsLocked_ne cfg srt io d (Nat.pos_of_ne_zero ‹_›) hscan
        (by unfold pruneOldRotationsLocked; simpa [*] using h)
      have := (mem_dirCandidates.mp ((collectCandidates_sublist _ _).subset
        (mem_of_mem_pruneSelection cfg srt hc))).2.2
      rw [hn] at this
      cases this

theorem Dir.append_of_ne (d : Dir) {m n : List Char} (bytes : List Char) (h : n ≠ m) :
    d.append m bytes n = d n := by
  unfold Dir.append
  rcases d m with _ | (c | _) <;> simp [h]

theorem Dir.openAppend_of_ne {d d' : Dir} {m n : List Char} (hd : d.openAppend m = some d') (h : n ≠ m) :
    d' n = d n := by
  unfold Dir.openAppend at hd
  split at hd <;> cases hd <;> simp [h]

theorem Dir.rename_of_ne {d d' : Dir} {src dst n : List Char} (hd : d.rename src dst = some d')
    (h1 : n ≠ src) (h2 : n ≠ dst) : d' n = d n := by
  unfold Dir.rename at hd
  split at hd <;> cases hd
  simp [h1, h2]

section

variable {cfg : Config} {E : Prop} {s : Sink} {io : Io} {n : List Char}

/-- Draining the buffer of a handle on the base file changes no other entry. -/
theorem drain_frame (h : CounterInv cfg E s) (k : Nat) (hn : n ≠ cfg.basePath) : (s.drain k).dir n = s.dir n := by
  rcases hf : s.file with _ | m
  · rw [Sink.drain_of_none s hf]
  · obtain rfl := (h.file m hf).1
    rw [Sink.drain_of_some s hf]
    exact Dir.append_of_ne _ _ hn

theorem writeLineLocked_frame (h : CounterInv cfg E s) (line : List Char) (hn : n ≠ cfg.basePath) :
    (stateOf (writeLineLocked line io s)).dir n = s.dir n := by
  rcases hf : s.file with _ | m
  · rw [writeLineLocked_none s io line hf]; rfl
  · obtain rfl := (h.file m hf).1
    rcases writeLineLocked_cases s io line hf with ⟨_, _, _, hw⟩ | ⟨_, _, _, _, _, hw⟩ <;>
      rw [hw] <;> exact Dir.append_of_ne _ _ hn

theorem rotateLocked_frame (h : CounterInv cfg E s) (srt : Sorter) (ht : BeforeWrap io.now io.nsec)
    (hn : Foreign cfg.basePath n) : (stateOf (rotateLocked cfg srt io s)).dir n = s.dir n := by
  have hfl : s.flushed.dir n = s.dir n := drain_frame h _ hn.1
  rcases rotateLocked_cases cfg srt io s with ⟨e, k, he, -⟩ | ⟨e, he⟩ | ⟨p, d, hu, hd, ⟨e, he⟩ | ⟨d', hd', he⟩⟩ <;>
    rw [he]
  · exact drain_frame h k hn.1
  · rw [stateOf_error, Sink.flushed_closed]; exact hfl
  all_goals have h1 : d n = s.dir n :=
    (Dir.rename_of_ne hd hn.1 fun e => uniqueName_parse ht hu (e ▸ hn.2)).trans hfl
  · exact h1
  · show pruneOldRotationsLocked cfg srt io d' n = s.dir n
    rw [pruneOldRotationsLocked_of_parse_none cfg srt io d' hn.2, Dir.openAppend_of_ne hd' hn.1, h1]

theorem call_frame (h : CounterInv cfg E s) (srt : Sorter) (c : Call) (ht : BeforeWrap io.now io.nsec)
    (hn : Foreign cfg.basePath n) : (stateOf (call cfg srt c io s)).dir n = s.dir n := by
  cases c with
  | flush =>
    obtain ⟨k, hk⟩ := stateOf_flushLocked s io cfg
    rw [call, flush, hk]
    exact drain_frame h k hn.1
  | write line =>
    rw [call, write_eq]
    split
    · have hr := rotateLocked_frame h srt ht hn
      have hi : CounterInv cfg False (stateOf (rotateLocked cfg srt io s)) :=
        rotateLocked_inv (h.mono False.elim) srt False.elim
      rcases hrot : rotateLocked cfg srt io s with ⟨_, s'⟩ | ⟨e, s'⟩ <;> rw [hrot] at hr hi
      · exact (writeLineLocked_frame hi line hn.1).trans hr
      · exact hr
    · exact writeLineLocked_frame h line hn.1

end

/-- The constructor creates or opens the base file and changes nothing else. -/
theorem rotatingFileSinkInit_frame {cfg : Config} {io : Io} {d : Dir} {s : Sink}
    (h : rotatingFileSinkInit cfg io (Sink.fresh d) = .ok () s) {n : List Char} (hn : n ≠ cfg.basePath) :
    s.dir n = d n := by
  rw [rotatingFileSinkInit_eq, fileSinkInit_eq] at h
  by_cases hb : cfg.basePath = []
  · simp [hb] at h
  simp only [if_neg hb, openLockedOrThrow_eq] at h
  split at h
  · simp at h
  rename_i s1 hs1
  have hs : s1 = s := by split at h <;> cases h; rfl
  subst hs
  split at hs1
  · cases hs1
  rename_i d' hd'
  cases hs1
  have hd : d.openAppend cfg.basePath = some d' := by
    cases hfo : io.fopenOk <;> simp only [hfo, ite_true, ite_false] at hd'
    · cases hd'
    · exact hd'
  exact Dir.openAppend_of_ne hd hn

/-- From construction on, through every run of calls in which the clock has not wrapped, whatever
fails along the way, each entry that is neither the base file nor one of its rotation names
keeps what it held before the sink was built. -/
theorem callRun_frame (cfg : Config) (srt : Sorter) (io : Io) (d : Dir) {s : Sink}
    (hinit : rotatingFileSinkInit cfg io (Sink.fresh d) = .ok () s) (calls : List (Call × Io))
    (hclock : ∀ p ∈ calls, BeforeWrap p.2.now p.2.nsec) (n : List Char) (hn : Foreign cfg.basePath n) :
    (callRun cfg srt calls s).dir n = d n := by
  have hinv : CounterInv cfg False s := init_inv False.elim hinit
  rw [← rotatingFileSinkInit_frame hinit hn.1]
  clear hinit
  induction calls generalizing s with
  | nil => rfl
  | cons p calls ih =>
    rw [List.forall_mem_cons] at hclock
    exact (ih hclock.2 (call_inv hinv srt p.1 False.elim)).trans (call_frame hinv srt p.1 hclock.1 hn)

/-- A file `b` beside the base file `a` keeps its byte through construction and two rotating
writes. -/
theorem callRun_frame_sample :
    (callRun ⟨['a'], 1, false, 1⟩ mergeSorter [(.write ['x'], okIo), (.write ['y'], okIo)]
      (stateOf (rotatingFileSinkInit ⟨['a'], 1, false, 1⟩ okIo
        (Sink.fresh fun n => if n = ['b'] then some (.regular ['z']) else none)))).dir ['b'] =
      some (.regular ['z']) :=
  callRun_frame ⟨['a'], 1, false, 1⟩ mergeSorter okIo (fun n => if n = ['b'] then some (.regular ['z']) else none)
    (s := stateOf (rotatingFileSinkInit ⟨['a'], 1, false, 1⟩ okIo
      (Sink.fresh fun n => if n = ['b'] then some (.regular ['z']) else none)))
    rfl _ (by simp only [List.mem_cons, forall_eq_or_imp]; decide) ['b'] ⟨by decide, by decide⟩

end SimLogger
