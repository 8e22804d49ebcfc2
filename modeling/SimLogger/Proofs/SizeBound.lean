import SimLogger.Proofs.Preserve

/-! The base file stays below `max_bytes`. `write` rotates when the counter and the line
would reach the limit, and a rotation that returns leaves a new, empty base file, nothing
buffered and the counter at zero. Along a run in which the counter stays exact (every `fseek`,
`fflush` and `fwrite` succeeds), every `write` that returns leaves the base file's bytes,
followed by those still in the stdio buffer, shorter than `max_bytes`, or exactly the line it
wrote. -/

namespace SimLogger

section

variable {cfg : Config} {s s' : Sink} {io : Io}

/-- A `write` that returns from an exact state leaves the base file and the buffer shorter than
`max_bytes`, or holding only the line it wrote. -/
theorem write_ok_size (srt : Sorter) {line : List Char} (h : CounterInv cfg True s)
    (hw : write cfg srt line io s = .ok () s') :
    ∃ c, s'.dir cfg.basePath = some (.regular c) ∧
      ((c ++ s'.buf).length < cfg.maxBytes ∨ c ++ s'.buf = terminated line) := by
  rw [write_eq] at hw
  split at hw
  · rcases hrot : rotateLocked cfg srt io s with ⟨_, s1⟩ | ⟨e, s1⟩ <;> rw [hrot] at hw
    · obtain ⟨-, hf, hn, hb, -⟩ := rotateLocked_ok srt hrot
      dsimp only at hw
      rcases writeLineLocked_cases s1 io line hf with ⟨t, b, htb, hw'⟩ | ⟨-, t, k, -, -, hw'⟩ <;>
        rw [hw'] at hw <;> cases hw
      refine ⟨t, by simp [Dir.append_of_regular hn], .inr ?_⟩
      simpa [hb, normLine_eq_terminated] using htb
    · cases hw
  · rename_i hlt
    rcases hf : s.file with _ | n
    · rw [writeLineLocked_none s io line hf] at hw; cases hw
    obtain ⟨rfl, c, hc, hex⟩ := h.file n hf
    rcases writeLineLocked_cases s io line hf with ⟨t, b, htb, hw'⟩ | ⟨-, t, k, -, -, hw'⟩ <;>
      rw [hw'] at hw <;> cases hw
    refine ⟨c ++ t, by simp [Dir.append_of_regular hc], .inl ?_⟩
    have hl := congrArg List.length htb
    have := hex trivial
    simp only [List.length_append] at hl ⊢
    omega

end

theorem CounterInv.callRun {cfg : Config} {E : Prop} (srt : Sorter) {s : Sink} (h : CounterInv cfg E s)
    (calls : List (Call × Io)) (hcalls : ∀ p ∈ calls, E → p.2.Exact) :
    CounterInv cfg E (callRun cfg srt calls s) := by
  induction calls generalizing s with
  | nil => exact h
  | cons p calls ih =>
    rw [List.forall_mem_cons] at hcalls
    exact ih (call_inv h srt p.1 hcalls.1) hcalls.2

/-- From construction on, along every run whose calls keep the counter exact, each `write`
that returns leaves the base file and the buffer shorter than `max_bytes`, or holding only the
line it wrote: the base file reaches the limit only through one line that is itself that long. -/
theorem callRun_write_size (cfg : Config) (srt : Sorter) (io0 : Io) (d : Dir) {s : Sink}
    (hinit : rotatingFileSinkInit cfg io0 (Sink.fresh d) = .ok () s) (hseek : io0.fseekOk = true)
    (calls : List (Call × Io)) (hcalls : ∀ p ∈ calls, p.2.Exact)
    (line : List Char) (io : Io) {t : Sink} (hw : write cfg srt line io (callRun cfg srt calls s) = .ok () t) :
    ∃ c, t.dir cfg.basePath = some (.regular c) ∧
      ((c ++ t.buf).length < cfg.maxBytes ∨ c ++ t.buf = terminated line) :=
  write_ok_size srt ((init_inv (fun _ => hseek) hinit).callRun srt calls fun p hp _ => hcalls p hp) hw

/-- A sink on `a`, built in an empty directory, writes `x` and then `y`. -/
theorem callRun_write_size_two_lines :
    ∃ c, (stateOf (write ⟨['a'], 64, false, 0⟩ mergeSorter ['y'] okIo
        (callRun ⟨['a'], 64, false, 0⟩ mergeSorter [(.write ['x'], okIo)]
          (stateOf (rotatingFileSinkInit ⟨['a'], 64, false, 0⟩ okIo (Sink.fresh fun _ => none)))))).dir ['a'] =
        some (.regular c) ∧
      ((c ++ (stateOf (write ⟨['a'], 64, false, 0⟩ mergeSorter ['y'] okIo
        (callRun ⟨['a'], 64, false, 0⟩ mergeSorter [(.write ['x'], okIo)]
          (stateOf (rotatingFileSinkInit ⟨['a'], 64, false, 0⟩ okIo (Sink.fresh fun _ => none)))))).buf).length < 64 ∨
        c ++ (stateOf (write ⟨['a'], 64, false, 0⟩ mergeSorter ['y'] okIo
          (callRun ⟨['a'], 64, false, 0⟩ mergeSorter [(.write ['x'], okIo)]
            (stateOf (rotatingFileSinkInit ⟨['a'], 64, false, 0⟩ okIo (Sink.fresh fun _ => none)))))).buf =
          terminated ['y']) :=
  callRun_write_size ⟨['a'], 64, false, 0⟩ mergeSorter okIo (fun _ => none)
    (s := stateOf (rotatingFileSinkInit ⟨['a'], 64, false, 0⟩ okIo (Sink.fresh fun _ => none))) rfl rfl
    [(.write ['x'], okIo)] (by simp only [List.mem_singleton, forall_eq]; exact ⟨rfl, rfl, rfl, rfl⟩) ['y'] okIo
    (t := stateOf (write ⟨['a'], 64, false, 0⟩ mergeSorter ['y'] okIo
        (callRun ⟨['a'], 64, false, 0⟩ mergeSorter [(.write ['x'], okIo)]
          (stateOf (rotatingFileSinkInit ⟨['a'], 64, false, 0⟩ okIo (Sink.fresh fun _ => none)))))) rfl

end SimLogger
