import Mathlib.Data.List.Forall2
import Mathlib.Data.List.Nodup
import SimLogger.Sanity.Order
import SimLogger.Sanity.Steps

/-! With `max_rotated_files = 0` and every I/O call succeeding, a run of `write`s splits the
byte stream greedily: the base file's old content and the lines, each with its newline, are
cut into segments at exactly the lines whose write would reach `max_bytes`; every segment but
the last went, in order, to a rotated file that did not exist before the run. The last is what
the base file holds followed by what the handle's stdio buffer still holds: the flush before each
rename writes the buffer out, and between rotations glibc writes it only when it overflows.
Nothing else in the directory changes. A run ends early only when all 10000 candidate names of
one second are taken. -/

namespace SimLogger

section

variable (cfg : Config) (srt : Sorter) {s : Sink} {io : Io}

/-- A line written with every I/O call succeeding: its bytes follow the buffer, split between
the file and the buffer, and are all counted. -/
theorem writeLineLocked_allOk (line : List Char) {n : List Char} (hf : s.file = some n) (hio : io.AllOk) :
    ∃ t b, t ++ b = s.buf ++ normLine line ∧ writeLineLocked line io s =
      .ok () { s with dir := s.dir.append n t, buf := b, bytesWritten := s.bytesWritten + (normLine line).length } := by
  rcases writeLineLocked_cases s io line hf with h | ⟨h, -⟩
  · exact h
  · rw [hio.payload, hio.newline] at h; simp at h

theorem fileExists_allOk (hio : io.AllOk) (d : Dir) : fileExists io d = fun n => (d n).isSome := by
  funext n; simp [fileExists, hio.stat n]

/-- A rotation with every I/O call succeeding flushes the buffer onto the base file, moves that
file to the free name the probe returns, and opens a new, empty base file. -/
theorem rotateLocked_allOk {c : List Char} (hf : s.file = some cfg.basePath)
    (hn : s.dir cfg.basePath = some (.regular c)) (hio : io.AllOk) :
    rotateLocked cfg srt io s =
      match uniqueName (fun n => (s.dir n).isSome) (cfg.basePath ++ '.' :: makeTimestampUtc io.now io.nsec) with
      | none => .error (.runtimeError "RotatingFileSink: unable to find unique rotated filename") s.flushed.closed
      | some p =>
        .ok () { s with
          path := cfg.basePath, file := some cfg.basePath, buf := [], bytesWritten := 0,
          rotationsPerformed := s.rotationsPerformed + 1,
          dir := pruneOldRotationsLocked cfg srt io
            (((s.dir.set cfg.basePath none).set p (some (.regular (c ++ s.buf)))).set cfg.basePath
              (some (.regular []))) } := by
  have hok : flushOk cfg io s = true := by simp [flushOk, hf, hio.fflush, hio.fsync]
  have hfl : s.flushed.dir = s.dir.set cfg.basePath (some (.regular (c ++ s.buf))) := by
    rw [Sink.flushed_of_some s hf]; exact Dir.append_of_regular hn _
  have hex : fileExists io s.flushed.dir = fun n => (s.dir n).isSome := by
    rw [fileExists_allOk hio, hfl]; funext n; simp only [Dir.set_apply]; split <;> simp_all
  rw [rotateLocked_of_flushOk s io cfg srt hok, hex]
  rcases hu : uniqueName (fun n => (s.dir n).isSome) _ with _ | p
  · rfl
  · have hp : s.dir p = none := by simpa using uniqueName_some _ _ hu
    have hne : cfg.basePath ≠ p := fun h => by simp_all
    simp only [renameOrThrow_eq, hio.rename, if_true, Dir.rename, Sink.flushed_closed, hfl, Dir.set_apply,
      if_pos rfl, Dir.set_set, reopenLocked_eq, openLockedOrThrow_eq, hio.fopen, Sink.flushed_buf_of_some s hf,
      Sink.closed_of_nil]
    rw [Dir.openAppend_of_none (by simp [hne])]
    simp [fileSizeOrZero, hio.fseek, Dir.size]


/-- A caller writing each line in turn; the run stops at the first exception. -/
def writeRun : List (List Char × Io) → M Unit
  | [] => pure ()
  | (line, io) :: rest => do write cfg srt line io; writeRun rest

end

/-- The greedy split of the byte stream: the closed segments and the open one. A line starts a
new segment exactly when the open segment and the line would reach `maxBytes`. -/
def greedyStep (maxBytes : Nat) (acc : List (List Char) × List Char) (line : List Char) :
    List (List Char) × List Char :=
  if maxBytes ≤ acc.2.length + (terminated line).length then (acc.1 ++ [acc.2], terminated line)
  else (acc.1, acc.2 ++ terminated line)

def greedySplit (maxBytes : Nat) (b0 : List Char) (lines : List (List Char)) :
    List (List Char) × List Char :=
  lines.foldl (greedyStep maxBytes) ([], b0)

/-- The base name and all 10000 `.seq` names after it are taken. -/
def AllTaken (d : Dir) (rb : List Char) : Prop :=
  (d rb).isSome ∧ ∀ k ∈ List.range' 1 9999, (d (seqName rb k)).isSome

theorem AllTaken.of_isSome {d d' : Dir} {rb : List Char} (h : ∀ n, (d' n).isSome = (d n).isSome)
    (ht : AllTaken d rb) : AllTaken d' rb :=
  ⟨by rw [h]; exact ht.1, fun k hk => by rw [h]; exact ht.2 k hk⟩

/-- The sink after the segments `closed` went to the files `ps`, with `cur` open, on the base
file and then in the buffer, against the directory `d0` and the rotation count `r0` the run
started from. -/
structure Segmented (cfg : Config) (d0 : Dir) (r0 : Nat) (closed : List (List Char))
    (cur : List Char) (ps : List (List Char)) (s : Sink) : Prop where
  file : s.file = some cfg.basePath
  base : ∃ c, s.dir cfg.basePath = some (.regular c) ∧ c ++ s.buf = cur
  count : s.bytesWritten = cur.length
  rotations : s.rotationsPerformed = r0 + closed.length
  fresh : ∀ p ∈ ps, d0 p = none
  nodup : ps.Nodup
  base_not_mem : cfg.basePath ∉ ps
  rotated : List.Forall₂ (fun p c => s.dir p = some (.regular c)) ps closed
  frame : ∀ n, n ≠ cfg.basePath → n ∉ ps → s.dir n = d0 n

theorem forall₂_exists_of_mem {α β : Type} {R : α → β → Prop} {l : List α} {u : List β}
    (h : List.Forall₂ R l u) {a : α} (ha : a ∈ l) : ∃ b, R a b := by
  induction h with
  | nil => cases ha
  | cons hab _ ih =>
    rcases List.mem_cons.mp ha with rfl | ha
    exacts [⟨_, hab⟩, ih ha]

theorem forall₂_of_mem_imp {α β : Type} {R S : α → β → Prop} {l : List α} {u : List β}
    (h : List.Forall₂ R l u) (H : ∀ a ∈ l, ∀ b, R a b → S a b) : List.Forall₂ S l u :=
  ((List.forall₂_and_left l u).mpr ⟨H, h⟩).imp fun _ b hab => hab.1 b hab.2

section

variable {cfg : Config} {srt : Sorter} {d0 : Dir} {r0 : Nat} {closed : List (List Char)}
  {cur : List Char} {ps : List (List Char)} {s : Sink} {io : Io}

/-- A line written without rotation extends the open segment. -/
theorem Segmented.append (line : List Char) (h : Segmented cfg d0 r0 closed cur ps s) (hio : io.AllOk) :
    ∃ s', writeLineLocked line io s = .ok () s' ∧ Segmented cfg d0 r0 closed (cur ++ terminated line) ps s' := by
  obtain ⟨c0, hc0, hcb⟩ := h.base
  obtain ⟨t, b, htb, hw⟩ := writeLineLocked_allOk line h.file hio
  refine ⟨_, hw, h.file, ⟨c0 ++ t, by simp [Dir.append_of_regular hc0], ?_⟩, ?_, h.rotations, h.fresh, h.nodup,
    h.base_not_mem, forall₂_of_mem_imp h.rotated fun p hp c hc => ?_, fun n hn hps => ?_⟩
  · rw [List.append_assoc, htb, ← List.append_assoc, hcb, normLine_eq_terminated]
  · simp [h.count, normLine_eq_terminated]
  · simpa [Dir.append_of_regular hc0, show p ≠ cfg.basePath from fun e => h.base_not_mem (e ▸ hp)] using hc
  · simpa [Dir.append_of_regular hc0, hn] using h.frame n hn hps

/-- A rotation to the free name `p` closes the open segment into `p` and opens an empty one. -/
theorem Segmented.rotate (h : Segmented cfg d0 r0 closed cur ps s) {c p : List Char}
    (hc : s.dir cfg.basePath = some (.regular c)) (hp : s.dir p = none) :
    Segmented cfg d0 r0 (closed ++ [cur]) [] (ps ++ [p])
      { s with
        path := cfg.basePath, file := some cfg.basePath, buf := [], bytesWritten := 0,
        rotationsPerformed := s.rotationsPerformed + 1,
        dir := ((s.dir.set cfg.basePath none).set p (some (.regular (c ++ s.buf)))).set cfg.basePath
          (some (.regular [])) } := by
  have hcur : c ++ s.buf = cur := by
    obtain ⟨c', hc', hcb⟩ := h.base
    rw [hc] at hc'; cases hc'; exact hcb
  have hpb : p ≠ cfg.basePath := fun e => by simp [e, hc] at hp
  have hps : p ∉ ps := fun hm => by
    obtain ⟨c, hc⟩ := forall₂_exists_of_mem h.rotated hm
    simp [hp] at hc
  refine ⟨rfl, ⟨[], by simp, rfl⟩, rfl, by simp [h.rotations, Nat.add_assoc], ?_, ?_, ?_, ?_, ?_⟩
  · intro q hq
    rcases List.mem_append.mp hq with hq | hq
    · exact h.fresh q hq
    · rw [List.mem_singleton.mp hq, ← h.frame p hpb hps, hp]
  · exact List.nodup_append.mpr ⟨h.nodup, List.nodup_singleton p, by simpa using hps⟩
  · simpa [Ne.symm hpb] using h.base_not_mem
  · refine List.rel_append (forall₂_of_mem_imp h.rotated fun q hq c hc => ?_) (by simp [hpb, hcur])
    have hqb : q ≠ cfg.basePath := fun e => h.base_not_mem (e ▸ hq)
    have hqp : q ≠ p := fun e => hps (e ▸ hq)
    simpa [hqb, hqp] using hc
  · intro n hn hm
    simp only [List.mem_append, List.mem_singleton, not_or] at hm
    simpa [hn, hm.2] using h.frame n hn hm.1

theorem Segmented.write (srt : Sorter) (hN : cfg.maxRotatedFiles = 0) (line : List Char)
    (h : Segmented cfg d0 r0 closed cur ps s) (hio : io.AllOk) :
    (∃ ps' s', write cfg srt line io s = .ok () s' ∧
      Segmented cfg d0 r0 (greedyStep cfg.maxBytes (closed, cur) line).1
        (greedyStep cfg.maxBytes (closed, cur) line).2 ps' s') ∨
    ∃ rb, write cfg srt line io s =
      .error (.runtimeError "RotatingFileSink: unable to find unique rotated filename") s.flushed.closed ∧
      AllTaken s.flushed.closed.dir rb := by
  rw [write_eq, h.count, normLine_eq_terminated]
  unfold greedyStep
  by_cases hc : cfg.maxBytes ≤ cur.length + (terminated line).length
  · obtain ⟨c, hc0, -⟩ := h.base
    rw [if_pos hc, if_pos hc, rotateLocked_allOk cfg srt h.file hc0 hio]
    rcases hu : uniqueName (fun n => (s.dir n).isSome) _ with _ | p
    · refine .inr ⟨_, rfl, AllTaken.of_isSome (fun n => ?_) (uniqueName_none _ _ hu)⟩
      rw [Sink.flushed_closed]
      exact Sink.drain_dir_isSome s _ n
    · have hp : s.dir p = none := by simpa using uniqueName_some _ _ hu
      obtain ⟨s', hw, h'⟩ := (h.rotate hc0 hp).append line hio
      refine .inl ⟨ps ++ [p], s', ?_, by simpa using h'⟩
      simpa only [pruneOldRotationsLocked_of_zero io cfg srt hN] using hw
  · rw [if_neg hc, if_neg hc]
    obtain ⟨s', hw, h'⟩ := h.append line hio
    exact .inl ⟨ps, s', hw, h'⟩

theorem Segmented.writeRun (hN : cfg.maxRotatedFiles = 0) (steps : List (List Char × Io))
    (hok : ∀ st ∈ steps, st.2.AllOk) (h : Segmented cfg d0 r0 closed cur ps s) :
    (∃ ps' s', writeRun cfg srt steps s = .ok () s' ∧
      Segmented cfg d0 r0 ((steps.map Prod.fst).foldl (greedyStep cfg.maxBytes) (closed, cur)).1
        ((steps.map Prod.fst).foldl (greedyStep cfg.maxBytes) (closed, cur)).2 ps' s') ∨
    ∃ s' rb, writeRun cfg srt steps s =
      .error (.runtimeError "RotatingFileSink: unable to find unique rotated filename") s' ∧
      AllTaken s'.dir rb := by
  induction steps generalizing closed cur ps s with
  | nil => exact .inl ⟨ps, s, rfl, h⟩
  | cons st rest ih =>
    obtain ⟨line, io⟩ := st
    have hrest : ∀ st ∈ rest, st.2.AllOk := fun st hst => hok st (List.mem_cons_of_mem _ hst)
    rcases h.write srt hN line (hok _ (List.mem_cons_self _ _)) with ⟨ps', s', hw, h'⟩ | ⟨rb, hw, ht⟩
    · simpa only [writeRun, M.bind_apply, hw, List.map_cons, List.foldl_cons] using ih hrest h'
    · exact .inr ⟨_, rb, by simp [writeRun, hw], ht⟩

end

/-- A run of successful writes with `max_rotated_files = 0`, from a sink open on a base file
that holds, with the buffer after it, `b0`, either ends with the segments of the greedy split
laid out as `Segmented` says, or stops at a rotation that found all of its 10000 candidate names
taken. -/
theorem write_run_greedy (cfg : Config) (srt : Sorter) (hN : cfg.maxRotatedFiles = 0) (s0 : Sink)
    (b0 : List Char) (hfile : s0.file = some cfg.basePath)
    (hbase : ∃ c, s0.dir cfg.basePath = some (.regular c) ∧ c ++ s0.buf = b0) (hcount : s0.bytesWritten = b0.length)
    (steps : List (List Char × Io)) (hok : ∀ st ∈ steps, st.2.AllOk) :
    (∃ ps s, writeRun cfg srt steps s0 = .ok () s ∧
      Segmented cfg s0.dir s0.rotationsPerformed
        (greedySplit cfg.maxBytes b0 (steps.map Prod.fst)).1
        (greedySplit cfg.maxBytes b0 (steps.map Prod.fst)).2 ps s) ∨
    ∃ s rb, writeRun cfg srt steps s0 =
      .error (.runtimeError "RotatingFileSink: unable to find unique rotated filename") s ∧
      AllTaken s.dir rb :=
  Segmented.writeRun hN steps hok
    ⟨hfile, hbase, hcount, rfl, by simp, List.nodup_nil, List.not_mem_nil _, .nil, fun _ _ _ => rfl⟩

theorem write_run_greedy_two_lines :
    (∃ ps s, writeRun ⟨['a'], 4, false, 0⟩ mergeSorter [(['o', 'k'], okIo), (['x'], okIo)] openSink =
        .ok () s ∧
      Segmented ⟨['a'], 4, false, 0⟩ openSink.dir 0 (greedySplit 4 [] [['o', 'k'], ['x']]).1
        (greedySplit 4 [] [['o', 'k'], ['x']]).2 ps s) ∨
    ∃ s rb, writeRun ⟨['a'], 4, false, 0⟩ mergeSorter [(['o', 'k'], okIo), (['x'], okIo)] openSink =
      .error (.runtimeError "RotatingFileSink: unable to find unique rotated filename") s ∧
      AllTaken s.dir rb :=
  write_run_greedy ⟨['a'], 4, false, 0⟩ mergeSorter rfl openSink [] rfl ⟨[], rfl, rfl⟩ rfl _
    (by simp only [List.mem_cons, List.mem_singleton, List.not_mem_nil, or_false]
        rintro _ (rfl | rfl) <;> exact okIo_allOk)

/-- One line into a sink on the empty base file `a`, well below `max_bytes`: `fwrite` keeps it
in the buffer, as glibc does with a line shorter than its buffer, so after the run the base file
is still empty while the greedy split's open segment is the line. -/
theorem write_run_buffered :
    (greedySplit 64 [] [['x']]).2 = ['x', '\n'] ∧
    ∃ s, writeRun ⟨['a'], 64, false, 0⟩ mergeSorter [(['x'], okIo)] openSink = .ok () s ∧
      s.dir ['a'] = some (.regular []) ∧ s.buf = ['x', '\n'] :=
  ⟨by decide, _, rfl, by decide, rfl⟩

end SimLogger
