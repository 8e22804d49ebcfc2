import SimLogger.Proofs.Greedy
import SimLogger.Proofs.Prune
import SimLogger.Proofs.Timestamp

/-! Rotations within one second. The first rotation of a second takes the bare timestamp
name, later ones take `.1`, `.2`, …, the first free. When the prune after the second
rotation deletes the bare name, the third rotation of the same second finds it free and
takes it again; its key `(ts, 0)` is then the smallest, so the prune that follows deletes the
file that rotation has just made and keeps the older `.1`. -/

namespace SimLogger

section

variable {cfg : Config} {srt : Sorter} {s : Sink} {io : Io} {c : List Char}

/-- A write that rotates to the free name `p`, every I/O call succeeding and both `fwrite`s
keeping what they are given in the buffer: the old base file and what was buffered go to `p`,
and the line waits in the buffer of the new, empty base file. -/
theorem write_rotate_buffered (line p : List Char) (hf : s.file = some cfg.basePath)
    (hn : s.dir cfg.basePath = some (.regular c)) (hio : io.AllOk)
    (hb : io.payload = .buffers 0 ∧ io.newline = .buffers 0)
    (hc : cfg.maxBytes ≤ s.bytesWritten + (normLine line).length)
    (hu : uniqueName (fun n => (s.dir n).isSome) (cfg.basePath ++ '.' :: makeTimestampUtc io.now io.nsec) = some p) :
    write cfg srt line io s =
      .ok () { s with
        path := cfg.basePath, file := some cfg.basePath, buf := normLine line,
        bytesWritten := (normLine line).length, rotationsPerformed := s.rotationsPerformed + 1,
        dir := pruneOldRotationsLocked cfg srt io
          (((s.dir.set cfg.basePath none).set p (some (.regular (c ++ s.buf)))).set cfg.basePath
            (some (.regular []))) } := by
  rw [write_eq, if_pos hc, rotateLocked_allOk cfg srt hf hn hio, hu]
  simp only
  rw [writeLineLocked_buffered _ io line rfl hb]
  simp

end

section

variable {cfg : Config} (srt : Sorter) {io : Io} {d : Dir} {listing : List (List Char)}

/-- A prune that collects no more candidates than the limit deletes nothing. -/
theorem pruneOldRotationsLocked_of_le (hN : 0 < cfg.maxRotatedFiles) (hscan : io.scan = some listing)
    (hc : (collectCandidates d io.statFails cfg.basePath listing).length ≤ cfg.maxRotatedFiles) :
    pruneOldRotationsLocked cfg srt io d = d := by
  rw [pruneOldRotationsLocked_of_scan cfg srt io d hN hscan, pruneSelection, Nat.sub_eq_zero_of_le hc]
  rfl

/-- With a limit of one and every removal succeeding, a prune that collects two candidates
deletes the one whose key is smaller. -/
theorem pruneOldRotationsLocked_two {a b : Candidate} (hN : cfg.maxRotatedFiles = 1)
    (hscan : io.scan = some listing) (hr : ∀ n, io.removeOk n = true)
    (hc : collectCandidates d io.statFails cfg.basePath listing = [a, b]) (hab : a.before b = true) :
    pruneOldRotationsLocked cfg srt io d = d.set a.path none := by
  rw [pruneOldRotationsLocked_of_scan cfg srt io d (by omega) hscan, hc, pruneSelection,
    srt.sort_eq_self (by simp [hab]), hN]
  funext n
  simp [removeAll, hr]

end

/-- Three writes of one byte line each, all at clock reading 0, to a sink on `a` with
`max_bytes = 1` and `max_rotated_files = 1`, each listing showing the directory as it is, and
each line kept in the stdio buffer until the flush before the next rotation. Every write
rotates. The third rotation takes the bare name again and its prune deletes it: the rotated
file left is `.1`, made by the second rotation, holding the first line. -/
theorem writeRun_same_second :
    ∃ s, writeRun ⟨['a'], 1, false, 1⟩ mergeSorter
        [(['x'], { okIo with scan := some [['a'], "a.19700101_000000".toList] }),
         (['y'], { okIo with scan := some [['a'], "a.19700101_000000".toList, "a.19700101_000000.1".toList] }),
         (['z'], { okIo with scan := some [['a'], "a.19700101_000000".toList, "a.19700101_000000.1".toList] })]
        openSink = .ok () s ∧
      s.rotationsPerformed = 3 ∧
      s.dir ['a'] = some (.regular []) ∧ s.buf = ['z', '\n'] ∧
      s.dir "a.19700101_000000.1".toList = some (.regular ['x', '\n']) ∧
      ∀ n, n ≠ ['a'] → n ≠ "a.19700101_000000.1".toList → s.dir n = none := by
  have hio : ∀ l, ({ okIo with scan := l } : Io).AllOk := fun _ =>
    ⟨rfl, rfl, fun _ => rfl, rfl, rfl, rfl, rfl, rfl⟩
  simp only [writeRun, M.bind_apply]
  -- the first rotation takes the bare name and keeps it
  rw [write_rotate_buffered ['x'] "a.19700101_000000".toList rfl rfl (hio _) ⟨rfl, rfl⟩ (by decide) ?hu1,
    pruneOldRotationsLocked_of_le mergeSorter (by decide) rfl ?hc1]
  case hu1 => show uniqueName _ (['a'] ++ '.' :: makeTimestampUtc 0 0) = _; rw [makeTimestampUtc_zero]; decide
  case hc1 => decide
  simp only
  -- the second takes `.1` and deletes the bare name
  rw [write_rotate_buffered ['y'] "a.19700101_000000.1".toList rfl rfl (hio _) ⟨rfl, rfl⟩ (by decide) ?hu2,
    pruneOldRotationsLocked_two mergeSorter (a := ⟨"a.19700101_000000".toList, "19700101_000000".toList, 0⟩)
      (b := ⟨"a.19700101_000000.1".toList, "19700101_000000".toList, 1⟩) rfl rfl (fun _ => rfl) ?hc2 (by decide)]
  case hu2 => show uniqueName _ (['a'] ++ '.' :: makeTimestampUtc 0 0) = _; rw [makeTimestampUtc_zero]; decide
  case hc2 => decide
  simp only
  -- the third takes the bare name again and deletes it
  rw [write_rotate_buffered ['z'] "a.19700101_000000".toList rfl rfl (hio _) ⟨rfl, rfl⟩ (by decide) ?hu3,
    pruneOldRotationsLocked_two mergeSorter (a := ⟨"a.19700101_000000".toList, "19700101_000000".toList, 0⟩)
      (b := ⟨"a.19700101_000000.1".toList, "19700101_000000".toList, 1⟩) rfl rfl (fun _ => rfl) ?hc3 (by decide)]
  case hu3 => show uniqueName _ (['a'] ++ '.' :: makeTimestampUtc 0 0) = _; rw [makeTimestampUtc_zero]; decide
  case hc3 => decide
  refine ⟨_, rfl, rfl, by decide, rfl, by decide, fun n h1 h2 => ?_⟩
  simp only [Dir.set_apply, openSink, h1, h2, if_false]
  split_ifs <;> rfl

end SimLogger
