import SimLogger.Sanity.Order
import SimLogger.Sanity.Steps

/-! A rotation that fails before its rename moves no file and leaves the rotation count as it
was, but it does not leave the sink as it found it. `flush_locked` runs first, and glibc's
`fflush` writes the stdio buffer and empties it even when a `write(2)` fails part way, so a
failed flush has put a prefix of the buffer on the base file and dropped the rest. After that,
`rotate_locked` closes the handle before it looks for a free name, so a failed probe or rename
leaves the buffer written out and the sink closed, and no path of `write` or `flush` opens it
again: from then on each call throws and changes nothing. -/

namespace SimLogger

section

variable (cfg : Config) (srt : Sorter)

theorem call_of_closed {s : Sink} (h : s.file = none) (c : Call) (io : Io) :
    call cfg srt c io s = .error (.runtimeError "FileSink file handle is null") s := by
  cases c with
  | flush => exact flushLocked_none s io cfg h
  | write line =>
    have hf : flushOk cfg io s = false := by simp [flushOk, h]
    rw [call, write_eq]
    split
    · simp only [rotateLocked, M.bind_apply, flushLocked_none s io cfg h]
    · exact writeLineLocked_none s io line h

/-- The failures of `rotate_locked` before its rename, as `write` reports them: a failed flush
leaves part of the buffer on the file, all of it when `fflush` itself succeeded; a failed probe
or rename leaves all of it there and the sink closed for good. -/
theorem write_rotation_failure (s : Sink) (io : Io) (line : List Char)
    (hrot : cfg.maxBytes ≤ s.bytesWritten + (normLine line).length) :
    (flushOk cfg io s = false →
      ∃ e k, write cfg srt line io s = .error e (s.drain k) ∧ (io.fflush = .done → s.drain k = s.flushed)) ∧
    (flushOk cfg io s = true →
      uniqueName (fileExists io s.flushed.dir) (cfg.basePath ++ '.' :: makeTimestampUtc io.now io.nsec) = none →
      write cfg srt line io s =
        .error (.runtimeError "RotatingFileSink: unable to find unique rotated filename") s.flushed.closed) ∧
    (∀ p, flushOk cfg io s = true →
      uniqueName (fileExists io s.flushed.dir) (cfg.basePath ++ '.' :: makeTimestampUtc io.now io.nsec) = some p →
      io.renameOk = false ∨ s.dir cfg.basePath = none →
      write cfg srt line io s =
        .error (.runtimeError ("RotatingFileSink rename failed: \x27" ++ String.mk cfg.basePath ++
          "\x27 -> \x27" ++ String.mk p ++ "\x27: ")) s.flushed.closed) ∧
    (∀ c io', s.flushed.closed.file = none ∧
      call cfg srt c io' s.flushed.closed = .error (.runtimeError "FileSink file handle is null") s.flushed.closed) := by
  rw [write_eq, if_pos hrot]
  refine ⟨fun h => ?_, fun h hu => ?_, fun p h hu hr => ?_,
    fun c io' => ⟨Sink.closed_file _, call_of_closed cfg srt (Sink.closed_file _) c io'⟩⟩
  · obtain ⟨e, k, he, hk⟩ := rotateLocked_of_not_flushOk s io cfg srt h
    exact ⟨e, k, by rw [he], hk⟩
  · rw [rotateLocked_of_flushOk s io cfg srt h, hu]
  · have hb : s.flushed.dir cfg.basePath = none ∨ io.renameOk = false := by
      rcases hr with hr | hr
      · exact .inr hr
      · exact .inl (by simpa [hr] using Sink.drain_dir_isSome s s.buf.length cfg.basePath)
    have : (if io.renameOk then s.flushed.dir.rename cfg.basePath p else none) = none := by
      rcases hb with hb | hb <;> simp [hb, Dir.rename]
    rw [rotateLocked_of_flushOk s io cfg srt h, hu]
    simp only [renameOrThrow_eq, Sink.flushed_closed, this]

end

theorem write_rotation_failure_renameOk_false :
    ∃ rb, rb = ['a'] ++ '.' :: makeTimestampUtc 0 0 ∧
    (flushOk ⟨['a'], 3, false, 0⟩ { okIo with renameOk := false } openSink = false →
      ∃ e k, write ⟨['a'], 3, false, 0⟩ mergeSorter ['x', 'y', 'z'] { okIo with renameOk := false } openSink =
        .error e (openSink.drain k) ∧ (Flush.done = .done → openSink.drain k = openSink.flushed)) ∧
    (flushOk ⟨['a'], 3, false, 0⟩ { okIo with renameOk := false } openSink = true →
      uniqueName (fileExists { okIo with renameOk := false } openSink.flushed.dir) rb = none →
      write ⟨['a'], 3, false, 0⟩ mergeSorter ['x', 'y', 'z'] { okIo with renameOk := false } openSink =
        .error (.runtimeError "RotatingFileSink: unable to find unique rotated filename") openSink.flushed.closed) ∧
    (∀ p, flushOk ⟨['a'], 3, false, 0⟩ { okIo with renameOk := false } openSink = true →
      uniqueName (fileExists { okIo with renameOk := false } openSink.flushed.dir) rb = some p →
      false = false ∨ openSink.dir ['a'] = none →
      write ⟨['a'], 3, false, 0⟩ mergeSorter ['x', 'y', 'z'] { okIo with renameOk := false } openSink =
        .error (.runtimeError ("RotatingFileSink rename failed: \x27" ++ String.mk ['a'] ++
          "\x27 -> \x27" ++ String.mk p ++ "\x27: ")) openSink.flushed.closed) ∧
    (∀ c io', openSink.flushed.closed.file = none ∧
      call ⟨['a'], 3, false, 0⟩ mergeSorter c io' openSink.flushed.closed =
        .error (.runtimeError "FileSink file handle is null") openSink.flushed.closed) :=
  ⟨_, rfl, write_rotation_failure ⟨['a'], 3, false, 0⟩ mergeSorter openSink { okIo with renameOk := false }
    ['x', 'y', 'z'] (by decide)⟩

/-- A failed rename leaves the sink closed, and a later write that needs no rotation and whose
every I/O call would succeed still throws. -/
theorem write_after_failed_rename :
    ∃ e s', write ⟨['a'], 3, false, 0⟩ mergeSorter ['x', 'y', 'z'] { okIo with renameOk := false }
        openSink = .error e s' ∧
      openSink.file = some ['a'] ∧ s'.file = none ∧ s'.bytesWritten + (normLine ['y']).length < 3 ∧
      write ⟨['a'], 3, false, 0⟩ mergeSorter ['y'] okIo s' =
        .error (.runtimeError "FileSink file handle is null") s' :=
  ⟨_, _, rfl, rfl, rfl, by decide, rfl⟩

end SimLogger
