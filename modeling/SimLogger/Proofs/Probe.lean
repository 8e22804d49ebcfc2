import SimLogger.Proofs.Timestamp
import SimLogger.Sanity.Steps

/-! The name probe of `rotate_locked`. It takes `base.ts` when that name does not exist, and
otherwise `base.ts.k` for the least `k` in `1..9999` whose name does not exist; it throws
exactly when all 10000 names exist. "Exists" is the answer of `fs::exists(p, ec)`, which is
`false` when the status query fails, so the name handed to `rename` can be an existing entry
whose status cannot be read, such as a symbolic link that loops, and `rename` replaces it. -/

namespace SimLogger

section Probe

variable (taken : List Char → Bool) (rb : List Char)

/-- Over `a, a+1, …`, the probe stops at the first free `.k` name. -/
theorem probeLoop_range'_of_free (a n : Nat) (last : List Char) {k : Nat} (hak : a ≤ k) (hkn : k < a + n)
    (hk : taken (seqName rb k) = false) (hbefore : ∀ j, a ≤ j → j < k → taken (seqName rb j) = true) :
    probeLoop taken rb (List.range' a n) last = seqName rb k := by
  induction n generalizing a last with
  | zero => omega
  | succ n ih =>
    rw [List.range'_succ, probeLoop]
    rcases Nat.lt_or_eq_of_le hak with hlt | rfl
    · rw [if_pos (hbefore a (Nat.le_refl a) hlt)]
      exact ih (a + 1) _ hlt (by omega) fun j h1 h2 => hbefore j (by omega) h2
    · rw [if_neg (by simp [hk])]

/-- When every name it probes is taken, so is the name the probe ends on. -/
theorem probeLoop_taken_of_all (ks : List Nat) {last : List Char} (hlast : taken last = true)
    (hks : ∀ k ∈ ks, taken (seqName rb k) = true) : taken (probeLoop taken rb ks last) = true := by
  induction ks generalizing last with
  | nil => exact hlast
  | cons k ks ih =>
    rw [List.forall_mem_cons] at hks
    rw [probeLoop, if_pos hks.1]
    exact ih hks.1 hks.2

theorem uniqueName_of_free (hrb : taken rb = false) : uniqueName taken rb = some rb := by
  rw [uniqueName, if_neg (by simp [hrb])]

/-- A taken `base.ts` gives the least free `.k` name. -/
theorem uniqueName_of_taken (hrb : taken rb = true) {k : Nat} (hk1 : 1 ≤ k) (hk2 : k ≤ 9999)
    (hk : taken (seqName rb k) = false) (hbefore : ∀ j, 1 ≤ j → j < k → taken (seqName rb j) = true) :
    uniqueName taken rb = some (seqName rb k) := by
  rw [uniqueName, if_pos hrb]
  dsimp only
  rw [probeLoop_range'_of_free taken rb 1 9999 rb hk1 (by omega) hk hbefore, if_neg (by simp [hk])]

theorem uniqueName_eq_none_iff :
    uniqueName taken rb = none ↔ taken rb = true ∧ ∀ k, 1 ≤ k → k ≤ 9999 → taken (seqName rb k) = true := by
  constructor
  · intro h
    obtain ⟨hrb, hall⟩ := uniqueName_none taken rb h
    exact ⟨hrb, fun k h1 h2 => hall k (List.mem_range'_1.mpr ⟨h1, by omega⟩)⟩
  · rintro ⟨hrb, hall⟩
    rw [uniqueName, if_pos hrb]
    dsimp only
    refine if_pos (probeLoop_taken_of_all taken rb _ hrb fun k hk => ?_)
    have hk := List.mem_range'_1.mp hk
    exact hall k hk.1 (by omega)

end Probe

/-- The probe over a directory and the status answers of one call: `base.ts` when it does not
exist, else the least free `base.ts.k`, an exception exactly when all 10000 names exist; and
the name it returns names an existing entry only when that entry's status query failed. -/
theorem uniqueName_fileExists (d : Dir) (io : Io) (basePath ts : List Char) :
    (fileExists io d (basePath ++ '.' :: ts) = false →
      uniqueName (fileExists io d) (basePath ++ '.' :: ts) = some (basePath ++ '.' :: ts)) ∧
    (fileExists io d (basePath ++ '.' :: ts) = true → ∀ k, 1 ≤ k → k ≤ 9999 →
      fileExists io d (seqName (basePath ++ '.' :: ts) k) = false →
      (∀ j, 1 ≤ j → j < k → fileExists io d (seqName (basePath ++ '.' :: ts) j) = true) →
      uniqueName (fileExists io d) (basePath ++ '.' :: ts) = some (seqName (basePath ++ '.' :: ts) k)) ∧
    (uniqueName (fileExists io d) (basePath ++ '.' :: ts) = none ↔
      fileExists io d (basePath ++ '.' :: ts) = true ∧
        ∀ k, 1 ≤ k → k ≤ 9999 → fileExists io d (seqName (basePath ++ '.' :: ts) k) = true) ∧
    (∀ p, uniqueName (fileExists io d) (basePath ++ '.' :: ts) = some p → io.statFails p = true ∨ d p = none) := by
  refine ⟨uniqueName_of_free _ _, fun hrb k h1 h2 hk hb => uniqueName_of_taken _ _ hrb h1 h2 hk hb,
    uniqueName_eq_none_iff _ _, fun p hp => ?_⟩
  have := uniqueName_some _ _ hp
  cases hs : io.statFails p
  · exact .inr (by simpa [fileExists, hs] using this)
  · exact .inl rfl

/-- With `a.19700101_000000` and `.1` taken and `.2` free (a gap the prune can leave), the probe
takes `.2`. -/
theorem uniqueName_fileExists_gap :
    uniqueName (fileExists okIo fun n => if n ∈ ["a.19700101_000000".toList, "a.19700101_000000.1".toList,
        "a.19700101_000000.3".toList] then some (.regular []) else none) (['a'] ++ '.' :: "19700101_000000".toList) =
      some (seqName (['a'] ++ '.' :: "19700101_000000".toList) 2) :=
  (uniqueName_fileExists _ okIo ['a'] _).2.1 (by decide) 2 (by decide) (by decide) (by decide)
    fun j h1 h2 => by obtain rfl : j = 1 := (by omega); decide

/-- A loop of symbolic links named `a.19700101_000000`: its status query fails, so the probe
counts the name as free and returns it, and the rotation at clock reading 0 renames `a` onto
it, replacing the entry. -/
theorem uniqueName_unreadable_entry :
    uniqueName (fileExists { okIo with statFails := fun n => n = "a.19700101_000000".toList }
        (openSink.dir.set "a.19700101_000000".toList (some .other))) "a.19700101_000000".toList =
      some "a.19700101_000000".toList ∧
    (∃ s, write ⟨['a'], 1, false, 0⟩ mergeSorter ['x']
        { okIo with statFails := fun n => n = "a.19700101_000000".toList }
        { openSink with dir := openSink.dir.set "a.19700101_000000".toList (some .other) } = .ok () s ∧
      s.dir "a.19700101_000000".toList = some (.regular [])) := by
  refine ⟨by decide, ?_⟩
  rw [write_eq, if_pos (by decide), rotateLocked_of_flushOk _ _ _ _ (by decide)]
  rw [show makeTimestampUtc ({ okIo with statFails := fun n => n = "a.19700101_000000".toList } : Io).now
    ({ okIo with statFails := fun n => n = "a.19700101_000000".toList } : Io).nsec =
    "19700101_000000".toList from makeTimestampUtc_zero]
  exact ⟨_, rfl, by decide⟩

end SimLogger
