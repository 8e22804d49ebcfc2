import SimLogger.Spec.RotatingFileSink

/-! One equation per operation of the sinks, so that later proofs never unfold a `do` block:
what each `_locked` helper and each library wrapper returns, and in which state. -/

namespace SimLogger

/-- The sink after the first `k` bytes of the handle's buffer reached its file and glibc dropped
the rest. -/
def Sink.drain (s : Sink) (k : Nat) : Sink :=
  match s.file with
  | some n => { s with dir := s.dir.append n (s.buf.take k), buf := [] }
  | none => s

/-- The sink after every buffered byte reached the file. -/
def Sink.flushed (s : Sink) : Sink := s.drain s.buf.length

/-- What `close_locked_noexcept` leaves: the buffer on the file, no handle, the counter at zero. -/
def Sink.closed (s : Sink) : Sink :=
  match s.file with
  | some n => { s with dir := s.dir.append n s.buf, file := none, buf := [], bytesWritten := 0 }
  | none => { s with bytesWritten := 0 }

/-- `flush_locked` succeeds: a handle, nothing buffered or an `fflush` whose writes succeed, and
`fsync` when durable. -/
def flushOk (cfg : Config) (io : Io) (s : Sink) : Bool :=
  s.file.isSome && (decide (s.buf = []) || decide (io.fflush = .done)) && (!cfg.durableFlush || io.fsyncOk)

namespace Sink

variable (s : Sink)

@[simp] theorem drain_path (k : Nat) : (s.drain k).path = s.path := by unfold drain; split <;> rfl
@[simp] theorem drain_file (k : Nat) : (s.drain k).file = s.file := by unfold drain; split <;> rfl
@[simp] theorem drain_bytesWritten (k : Nat) : (s.drain k).bytesWritten = s.bytesWritten := by
  unfold drain; split <;> rfl
@[simp] theorem drain_rotationsPerformed (k : Nat) : (s.drain k).rotationsPerformed = s.rotationsPerformed := by
  unfold drain; split <;> rfl

theorem drain_of_some {n : List Char} (h : s.file = some n) (k : Nat) :
    s.drain k = { s with dir := s.dir.append n (s.buf.take k), buf := [] } := by
  simp [drain, h]

theorem drain_of_none (h : s.file = none) (k : Nat) : s.drain k = s := by simp [drain, h]

/-- Draining the buffer creates and removes no entry. -/
theorem drain_dir_isSome (k : Nat) (m : List Char) : ((s.drain k).dir m).isSome = (s.dir m).isSome := by
  unfold drain; split
  · exact Dir.append_isSome _ _ _ _
  · rfl

@[simp] theorem flushed_path : s.flushed.path = s.path := drain_path s _
@[simp] theorem flushed_file : s.flushed.file = s.file := drain_file s _
@[simp] theorem flushed_bytesWritten : s.flushed.bytesWritten = s.bytesWritten := drain_bytesWritten s _
@[simp] theorem flushed_rotationsPerformed : s.flushed.rotationsPerformed = s.rotationsPerformed :=
  drain_rotationsPerformed s _

theorem flushed_of_some {n : List Char} (h : s.file = some n) :
    s.flushed = { s with dir := s.dir.append n s.buf, buf := [] } := by
  simp [flushed, drain, h]

theorem flushed_of_nil (h : s.buf = []) : s.flushed = s := by
  unfold flushed drain
  split
  · cases s; simp_all [Dir.append_nil]
  · rfl

@[simp] theorem flushed_buf_of_some {n : List Char} (h : s.file = some n) : s.flushed.buf = [] := by
  simp [flushed_of_some s h]

@[simp] theorem closed_path : s.closed.path = s.path := by unfold closed; split <;> rfl
@[simp] theorem closed_file : s.closed.file = none := by unfold closed; split <;> simp_all
@[simp] theorem closed_bytesWritten : s.closed.bytesWritten = 0 := by unfold closed; split <;> rfl
@[simp] theorem closed_rotationsPerformed : s.closed.rotationsPerformed = s.rotationsPerformed := by
  unfold closed; split <;> rfl

/-- Closing with nothing buffered writes nothing. -/
theorem closed_of_nil (h : s.buf = []) : s.closed = { s with file := none, bytesWritten := 0 } := by
  unfold closed
  split
  · cases s; simp_all [Dir.append_nil]
  · cases s; simp_all

/-- Closing what a flush left. -/
theorem flushed_closed : s.flushed.closed = { s.flushed with file := none, bytesWritten := 0 } := by
  unfold flushed drain closed
  rcases h : s.file with _ | n
  · cases s; simp_all
  · simp [Dir.append_nil]

end Sink

section

variable (s : Sink) (io : Io) (line : List Char)

theorem writeAllOrThrow_none (data : List Char) (w : Fwrite) :
    writeAllOrThrow none data w s = .error (.runtimeError "FileSink file handle is null") s := rfl

/-- One `fwrite` on an open handle: it returns with some of the bytes it holds on the file and the
rest buffered, or, on a short count, throws with a prefix of them on the file and nothing
buffered. -/
theorem writeAllOrThrow_cases (n data : List Char) (w : Fwrite) :
    (∃ t b, t ++ b = s.buf ++ data ∧ writeAllOrThrow (some n) data w s = .ok () { s with dir := s.dir.append n t, buf := b }) ∨
    (w.succeeds = false ∧ ∃ t, t <+: s.buf ++ data ∧
      writeAllOrThrow (some n) data w s =
        .error (.runtimeError "FileSink write failed: ") { s with dir := s.dir.append n t, buf := [] }) := by
  by_cases hd : data = []
  · subst hd
    refine .inl ⟨[], s.buf, by simp, ?_⟩
    simp only [writeAllOrThrow, M.bind_apply, if_pos rfl, Dir.append_nil]
    rfl
  · cases w with
    | buffers k =>
      exact .inl ⟨_, _, List.take_append_drop k _, by simp [writeAllOrThrow, hd]⟩
    | fails k =>
      exact .inr ⟨rfl, _, List.take_prefix k _, by simp [writeAllOrThrow, hd]⟩

theorem normLine_length : (normLine line).length = line.length + if needsNewline line then 1 else 0 := by
  unfold normLine; split <;> simp

/-- `norm(l)`, stated apart from `normLine`: `l`, followed by `\n` unless it ends in one. -/
def terminated (l : List Char) : List Char := if l.reverse.head? = some '\n' then l else l ++ ['\n']

theorem normLine_eq_terminated : normLine line = terminated line := by
  unfold normLine terminated needsNewline
  rw [List.head?_reverse]
  by_cases h : line.getLast? = some '\n' <;> simp [h]

theorem writeLineLocked_none (h : s.file = none) :
    writeLineLocked line io s = .error (.runtimeError "FileSink file handle is null") s := by
  simp [writeLineLocked, h, writeAllOrThrow_none]

/-- `write_line_locked` on an open handle: it returns with the buffer and the line's bytes split
between the file and the buffer, all of them counted; or it throws with a prefix of them on the
file and nothing buffered, having counted the payload exactly when only the newline's `fwrite`
failed. -/
theorem writeLineLocked_cases {n : List Char} (hf : s.file = some n) :
    (∃ t b, t ++ b = s.buf ++ normLine line ∧ writeLineLocked line io s =
      .ok () { s with dir := s.dir.append n t, buf := b, bytesWritten := s.bytesWritten + (normLine line).length }) ∨
    ((io.payload.succeeds = false ∨ io.newline.succeeds = false) ∧ ∃ t k, t <+: s.buf ++ normLine line ∧
      (k = 0 ∨ needsNewline line = true ∧ k = line.length) ∧
      writeLineLocked line io s = .error (.runtimeError "FileSink write failed: ")
        { s with dir := s.dir.append n t, buf := [], bytesWritten := s.bytesWritten + k }) := by
  obtain ⟨path, file, buf, bw, rp, dir⟩ := s
  obtain rfl : file = some n := hf
  have hpre : buf ++ line <+: buf ++ normLine line := by
    unfold normLine; split
    · rw [← List.append_assoc]; exact List.prefix_append _ _
    · exact List.prefix_refl _
  simp only [writeLineLocked, M.bind_apply, M.get_apply]
  rcases writeAllOrThrow_cases ⟨path, some n, buf, bw, rp, dir⟩ n line io.payload with ⟨t1, b1, h1, e1⟩ | ⟨hp, t1, h1, e1⟩
  · rw [e1]
    simp only [M.modify_apply]
    by_cases hn : needsNewline line = true
    · simp only [hn, ite_true, M.bind_apply, M.get_apply]
      rcases writeAllOrThrow_cases ⟨path, some n, b1, bw + line.length, rp, dir.append n t1⟩
          n ['\n'] io.newline with
        ⟨t2, b2, h2, e2⟩ | ⟨hq, t2, h2, e2⟩
      · rw [e2]
        refine .inl ⟨t1 ++ t2, b2, ?_, ?_⟩
        · rw [List.append_assoc, h2, ← List.append_assoc, h1, normLine, if_pos hn, List.append_assoc]
        · simp [Dir.append_append, normLine_length, hn, Nat.add_assoc]
      · rw [e2]
        refine .inr ⟨.inr hq, t1 ++ t2, line.length, ?_, .inr ⟨trivial, rfl⟩, by simp [Dir.append_append]⟩
        have : t1 ++ (b1 ++ ['\n']) = buf ++ normLine line := by
          rw [← List.append_assoc, h1, normLine, if_pos hn, List.append_assoc]
        exact this ▸ (List.prefix_append_right_inj t1).mpr h2
    · have hn' : needsNewline line = false := by simpa using hn
      simp only [hn', Bool.false_eq_true, ite_false, M.pure_apply]
      refine .inl ⟨t1, b1, by rw [h1, normLine, if_neg hn], ?_⟩
      rw [normLine, if_neg hn]
  · rw [e1]
    exact .inr ⟨.inl hp, t1, 0, h1.trans hpre, .inl rfl, by simp⟩

/-- `write_line_locked` when both `fwrite`s keep all they are given in the buffer: nothing
reaches the file. -/
theorem writeLineLocked_buffered {n : List Char} (hf : s.file = some n)
    (hb : io.payload = .buffers 0 ∧ io.newline = .buffers 0) :
    writeLineLocked line io s =
      .ok () { s with buf := s.buf ++ normLine line, bytesWritten := s.bytesWritten + (normLine line).length } := by
  obtain ⟨path, file, buf, bw, rp, dir⟩ := s
  obtain rfl : file = some n := hf
  by_cases hl : line = []
  · subst hl
    simp [writeLineLocked, writeAllOrThrow, hb, normLine, needsNewline, Dir.append_nil]
  · cases hn : needsNewline line <;>
      simp [writeLineLocked, writeAllOrThrow, hl, hn, hb, normLine, Dir.append_nil, Nat.add_assoc]

theorem closeLockedNoexcept_eq : closeLockedNoexcept s = .ok () s.closed := rfl

theorem openLockedOrThrow_eq :
    openLockedOrThrow io s =
      match if io.fopenOk then s.dir.openAppend s.path else none with
      | none =>
        .error (.runtimeError ("FileSink fopen failed for \x27" ++ String.mk s.path ++ "\x27: "))
          { s with file := none }
      | some d =>
        .ok () { s with dir := d, file := some s.path, buf := [], bytesWritten := fileSizeOrZero d (some s.path) io } := by
  simp only [openLockedOrThrow, M.bind_apply, M.get_apply]
  rcases if io.fopenOk then s.dir.openAppend s.path else none with _ | d <;> rfl

theorem reopenLocked_eq (n : List Char) :
    reopenLocked n io s = openLockedOrThrow io { s.closed with path := n } := rfl

theorem renameOrThrow_eq (src dst : List Char) :
    renameOrThrow src dst io s =
      match if io.renameOk then s.dir.rename src dst else none with
      | some d => .ok () { s with dir := d }
      | none =>
        .error (.runtimeError ("RotatingFileSink rename failed: \x27" ++ String.mk src ++ "\x27 -> \x27" ++
          String.mk dst ++ "\x27: ")) s := by
  simp only [renameOrThrow, M.bind_apply, M.get_apply]
  rcases if io.renameOk then s.dir.rename src dst else none with _ | d <;> rfl

variable (cfg : Config) (srt : Sorter)

theorem flushLocked_none (h : s.file = none) :
    flushLocked cfg io s = .error (.runtimeError "FileSink file handle is null") s := by
  simp [flushLocked, fflushOrThrow, h]

theorem flushLocked_of_ok (h : flushOk cfg io s = true) : flushLocked cfg io s = .ok () s.flushed := by
  obtain ⟨n, hn⟩ : ∃ n, s.file = some n := Option.isSome_iff_exists.mp (by simp_all [flushOk])
  simp only [flushOk, hn, Option.isSome_some, Bool.true_and, Bool.and_eq_true, Bool.or_eq_true,
    decide_eq_true_eq, Bool.not_eq_true'] at h
  obtain ⟨hb, hs⟩ := h
  by_cases he : s.buf = []
  · rw [Sink.flushed_of_nil s he]
    cases hd : cfg.durableFlush <;> simp_all [flushLocked, fflushOrThrow, fsyncOrThrow]
  · rw [Sink.flushed_of_some s hn]
    cases hd : cfg.durableFlush <;> simp_all [flushLocked, fflushOrThrow, fsyncOrThrow]

theorem flushLocked_of_not_ok (h : flushOk cfg io s = false) :
    ∃ e k, flushLocked cfg io s = .error e (s.drain k) := by
  rcases hn : s.file with _ | n
  · exact ⟨_, 0, by rw [flushLocked_none s io cfg hn, Sink.drain_of_none s hn]⟩
  simp only [flushOk, hn, Option.isSome_some, Bool.true_and, Bool.and_eq_false_iff, Bool.or_eq_false_iff,
    decide_eq_false_iff_not, Bool.not_eq_false', Bool.not_eq_true] at h
  by_cases he : s.buf = []
  · have hs : cfg.durableFlush = true ∧ io.fsyncOk = false := by simp_all
    refine ⟨.runtimeError "FileSink fsync failed: ", s.buf.length, ?_⟩
    rw [show s.drain s.buf.length = s from Sink.flushed_of_nil s he]
    simp [flushLocked, fflushOrThrow, fsyncOrThrow, hn, he, hs.1, hs.2]
  · rcases hw : io.fflush with _ | k
    · have hs : cfg.durableFlush = true ∧ io.fsyncOk = false := by simp_all
      refine ⟨.runtimeError "FileSink fsync failed: ", s.buf.length, ?_⟩
      rw [show s.drain s.buf.length = s.flushed from rfl, Sink.flushed_of_some s hn]
      simp [flushLocked, fflushOrThrow, fsyncOrThrow, hn, he, hw, hs.1, hs.2]
    · exact ⟨.runtimeError "FileSink fflush failed: ", k,
        by simp [flushLocked, fflushOrThrow, hn, he, hw, Sink.drain_of_some s hn]⟩

/-- When the writes of `fflush` succeed, `flush_locked` leaves all of the buffer on the file,
even if `fsync` then fails. -/
theorem stateOf_flushLocked_of_done (h : io.fflush = .done) : stateOf (flushLocked cfg io s) = s.flushed := by
  rcases hn : s.file with _ | n
  · rw [flushLocked_none s io cfg hn, show s.flushed = s.drain s.buf.length from rfl, Sink.drain_of_none s hn]; rfl
  by_cases he : s.buf = []
  · rw [Sink.flushed_of_nil s he]
    cases hd : cfg.durableFlush <;> cases hs : io.fsyncOk <;> simp [flushLocked, fflushOrThrow, fsyncOrThrow, hn, he, hd, hs]
  · rw [Sink.flushed_of_some s hn]
    cases hd : cfg.durableFlush <;> cases hs : io.fsyncOk <;> simp [flushLocked, fflushOrThrow, fsyncOrThrow, hn, he, hd, hs, h]

/-- `flush_locked` leaves the sink with part of its buffer on the file and nothing else changed,
whether it throws or not. -/
theorem stateOf_flushLocked : ∃ k, stateOf (flushLocked cfg io s) = s.drain k := by
  cases hok : flushOk cfg io s
  · obtain ⟨e, k, he⟩ := flushLocked_of_not_ok s io cfg hok
    exact ⟨k, by rw [he]; rfl⟩
  · exact ⟨s.buf.length, by rw [flushLocked_of_ok s io cfg hok]; rfl⟩

/-- A rotation whose flush fails throws with the sink as the flush left it: part of the buffer on
the file, all of it when `fflush` itself succeeded. -/
theorem rotateLocked_of_not_flushOk (h : flushOk cfg io s = false) :
    ∃ e k, rotateLocked cfg srt io s = .error e (s.drain k) ∧ (io.fflush = .done → s.drain k = s.flushed) := by
  obtain ⟨e, k, he⟩ := flushLocked_of_not_ok s io cfg h
  exact ⟨e, k, by simp [rotateLocked, he], fun hd => by simpa [he] using stateOf_flushLocked_of_done s io cfg hd⟩

theorem rotateLocked_of_flushOk (h : flushOk cfg io s = true) :
    rotateLocked cfg srt io s =
      match uniqueName (fileExists io s.flushed.dir) (cfg.basePath ++ '.' :: makeTimestampUtc io.now io.nsec) with
      | none => .error (.runtimeError "RotatingFileSink: unable to find unique rotated filename") s.flushed.closed
      | some p =>
        match renameOrThrow cfg.basePath p io s.flushed.closed with
        | .error e s' => .error e s'
        | .ok _ s1 =>
          match reopenLocked cfg.basePath io s1 with
          | .error e s' => .error e s'
          | .ok _ s2 =>
            .ok () { s2 with rotationsPerformed := s2.rotationsPerformed + 1,
                             dir := pruneOldRotationsLocked cfg srt io s2.dir } := by
  simp only [rotateLocked, M.bind_apply, flushLocked_of_ok s io cfg h, closeLockedNoexcept_eq,
    M.get_apply, Sink.flushed_closed]
  rcases uniqueName (fileExists io s.flushed.dir) _ with _ | p
  · rfl
  · simp only [M.bind_apply, M.modify_apply]
    rcases renameOrThrow cfg.basePath p io { s.flushed with file := none, bytesWritten := 0 } with ⟨_, s1⟩ | ⟨e, s1⟩
    · simp only
      rcases reopenLocked cfg.basePath io s1 with ⟨_, s2⟩ | ⟨e, s2⟩ <;> rfl
    · rfl

theorem write_eq :
    write cfg srt line io s =
      if cfg.maxBytes ≤ s.bytesWritten + (normLine line).length then
        match rotateLocked cfg srt io s with
        | .ok _ s' => writeLineLocked line io s'
        | .error e s' => .error e s'
      else writeLineLocked line io s := by
  simp only [write, M.bind_apply, M.get_apply, Nat.add_assoc, ← normLine_length, ge_iff_le]
  by_cases hc : cfg.maxBytes ≤ s.bytesWritten + (normLine line).length
  · simp only [hc, ite_true, M.bind_apply]
    rcases rotateLocked cfg srt io s with ⟨_, s'⟩ | ⟨e, s'⟩ <;> rfl
  · simp only [hc, ite_false, M.bind_apply, M.pure_apply]


theorem fileSinkInit_eq (path : List Char) :
    fileSinkInit path io s =
      if path = [] then .error (.invalidArgument "FileSink path must not be empty") { s with path := path }
      else openLockedOrThrow io { s with path := path } := by
  by_cases h : path = [] <;> simp [fileSinkInit, h]

/-- The constructor body runs its checks after the base constructor opened the file; when one
fails, the file is closed again. -/
theorem rotatingFileSinkInit_eq :
    rotatingFileSinkInit cfg io s =
      match fileSinkInit cfg.basePath io s with
      | .error e s' => .error e s'
      | .ok _ s' =>
        if cfg.basePath = [] then
          .error (.invalidArgument "RotatingFileSink path must not be empty") s'.closed
        else if cfg.maxBytes = 0 then
          .error (.invalidArgument "RotatingFileSink max_bytes must be > 0") s'.closed
        else .ok () s' := by
  simp only [rotatingFileSinkInit, M.bind_apply]
  rcases fileSinkInit cfg.basePath io s with ⟨_, s'⟩ | ⟨e, s'⟩
  · by_cases h1 : cfg.basePath = [] <;> by_cases h2 : cfg.maxBytes = 0 <;>
      simp [h1, h2, closeLockedNoexcept_eq]
  · rfl

theorem pruneOldRotationsLocked_of_zero (h : cfg.maxRotatedFiles = 0) (d : Dir) :
    pruneOldRotationsLocked cfg srt io d = d := by
  simp [pruneOldRotationsLocked, h]

end

section Probe

variable (taken : List Char → Bool) (rb : List Char)

theorem probeLoop_taken (ks : List Nat) (last : List Char)
    (h : taken (probeLoop taken rb ks last) = true) : ∀ k ∈ ks, taken (seqName rb k) = true := by
  induction ks generalizing last with
  | nil => simp
  | cons k ks ih =>
    simp only [probeLoop] at h
    split at h
    · exact List.forall_mem_cons.mpr ⟨‹_›, ih _ h⟩
    · simp_all

theorem uniqueName_some {p : List Char} (h : uniqueName taken rb = some p) : taken p = false := by
  unfold uniqueName at h
  split at h
  · dsimp only at h
    split at h <;> simp_all
  · simp_all

/-- Every name the probe hands out extends the rotated base. -/
theorem uniqueName_prefix {p : List Char} (h : uniqueName taken rb = some p) : ∃ t, p = rb ++ t := by
  have hloop : ∀ ks last, (∃ t, last = rb ++ t) → ∃ t, probeLoop taken rb ks last = rb ++ t := by
    intro ks
    induction ks with
    | nil => exact fun _ h => h
    | cons k ks ih =>
      intro last _
      simp only [probeLoop]
      split
      · exact ih _ ⟨_, rfl⟩
      · exact ⟨_, rfl⟩
  unfold uniqueName at h
  split at h
  · dsimp only at h
    split at h
    · cases h
    · cases h; exact hloop _ _ ⟨[], (List.append_nil rb).symm⟩
  · cases h; exact ⟨[], (List.append_nil rb).symm⟩

theorem uniqueName_none (h : uniqueName taken rb = none) :
    taken rb = true ∧ ∀ k ∈ List.range' 1 9999, taken (seqName rb k) = true := by
  unfold uniqueName at h
  split at h
  · dsimp only at h
    split at h
    · exact ⟨‹_›, probeLoop_taken taken rb _ rb ‹_›⟩
    · simp at h
  · simp at h

end Probe

/-- What a rotation can do: throw after a failed flush, with part of the buffer on the file, all
of it when `fflush` succeeded;
throw with the buffer flushed, the handle closed and nothing else changed (no free name, or a
failed rename); or move the flushed base file onto the name `p` the probe returned and then
throw with the handle closed (a failed `fopen`), or return, open on a new base file, after the
count and the prune. -/
theorem rotateLocked_cases (cfg : Config) (srt : Sorter) (io : Io) (s : Sink) :
    (∃ e k, rotateLocked cfg srt io s = .error e (s.drain k) ∧ (io.fflush = .done → s.drain k = s.flushed)) ∨
    (∃ e, rotateLocked cfg srt io s = .error e s.flushed.closed) ∨
    ∃ p d, uniqueName (fileExists io s.flushed.dir) (cfg.basePath ++ '.' :: makeTimestampUtc io.now io.nsec) =
        some p ∧ s.flushed.dir.rename cfg.basePath p = some d ∧
      ((∃ e, rotateLocked cfg srt io s = .error e { s.flushed.closed with path := cfg.basePath, dir := d }) ∨
        ∃ d', d.openAppend cfg.basePath = some d' ∧
          rotateLocked cfg srt io s = .ok () { s with
            path := cfg.basePath, file := some cfg.basePath, buf := [],
            bytesWritten := fileSizeOrZero d' (some cfg.basePath) io,
            rotationsPerformed := s.rotationsPerformed + 1, dir := pruneOldRotationsLocked cfg srt io d' }) := by
  cases hok : flushOk cfg io s
  · exact .inl (rotateLocked_of_not_flushOk s io cfg srt hok)
  rw [rotateLocked_of_flushOk s io cfg srt hok]
  rcases hu : uniqueName (fileExists io s.flushed.dir) (cfg.basePath ++ '.' :: makeTimestampUtc io.now io.nsec)
    with _ | p
  · exact .inr (.inl ⟨_, rfl⟩)
  simp only [renameOrThrow_eq, Sink.flushed_closed]
  rcases hr : (if io.renameOk then s.flushed.dir.rename cfg.basePath p else none) with _ | d
  · exact .inr (.inl ⟨_, rfl⟩)
  have hd : s.flushed.dir.rename cfg.basePath p = some d := by
    split at hr
    · exact hr
    · cases hr
  refine .inr (.inr ⟨p, d, rfl, hd, ?_⟩)
  simp only [reopenLocked_eq, openLockedOrThrow_eq, Sink.closed]
  rcases ho : (if io.fopenOk then d.openAppend cfg.basePath else none) with _ | d'
  · exact .inl ⟨_, rfl⟩
  · refine .inr ⟨d', ?_, by rw [Sink.flushed_rotationsPerformed]⟩
    split at ho
    · exact ho
    · cases ho

/-- An I/O record in which every call succeeds, each `fwrite` keeping its bytes in the buffer as
glibc does with lines shorter than the buffer, at clock reading 0. -/
def okIo : Io :=
  { fflush := .done, fsyncOk := true, now := 0, nsec := 0, statFails := fun _ => false, renameOk := true,
    fopenOk := true, fseekOk := true, scan := none, removeOk := fun _ => true, payload := .buffers 0,
    newline := .buffers 0 }

theorem okIo_allOk : okIo.AllOk :=
  ⟨rfl, rfl, fun _ => rfl, rfl, rfl, rfl, rfl, rfl⟩

/-- A sink open on the empty base file `a`, alone in its directory. -/
def openSink : Sink :=
  { path := ['a'], file := some ['a'], buf := [], bytesWritten := 0, rotationsPerformed := 0,
    dir := fun n => if n = ['a'] then some (.regular []) else none }

end SimLogger
