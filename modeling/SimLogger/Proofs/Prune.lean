import Mathlib.Data.List.Nodup
import SimLogger.Sanity.Order
import SimLogger.Sanity.Steps

/-! The retention prune. It only ever deletes regular files whose names parse as rotations of
the base name, never the base file, and at most as many as the candidates exceed the limit.
When every status query and every removal succeeds, the deleted candidates are the oldest and
exactly `min count limit` remain. Both conditions are needed: a failed status query ends the
directory scan at that entry, so later candidates are never compared, and a failed removal
keeps an old file while newer ones go. -/

namespace SimLogger

/-- The candidate the prune's loop makes of directory entry `n`, when it makes one. -/
def candidateOf (d : Dir) (base n : List Char) : Option Candidate :=
  if d.isRegular n then (parseRotationSuffix n base).map fun p => ⟨n, p.1, p.2⟩ else none

/-- The candidates among the entries of `listing`: what the loop collects when no status
query fails. -/
def dirCandidates (d : Dir) (base : List Char) (listing : List (List Char)) : List Candidate :=
  listing.filterMap (candidateOf d base)

section Candidates

variable {d : Dir} {base : List Char}

theorem candidateOf_eq_some {n : List Char} {c : Candidate} :
    candidateOf d base n = some c ↔
      n = c.path ∧ d.isRegular c.path = true ∧ parseRotationSuffix c.path base = some (c.ts, c.seq) := by
  obtain ⟨p, t, q⟩ := c
  unfold candidateOf
  by_cases hnp : n = p
  · subst hnp
    by_cases h : d.isRegular n <;> simp only [h, ite_true, ite_false, true_and]
    · rcases parseRotationSuffix n base with _ | ⟨t', q'⟩ <;> simp
    · simp
  · split <;> simp [hnp]

theorem mem_dirCandidates {c : Candidate} {listing : List (List Char)} :
    c ∈ dirCandidates d base listing ↔
      c.path ∈ listing ∧ d.isRegular c.path = true ∧ parseRotationSuffix c.path base = some (c.ts, c.seq) := by
  simp only [dirCandidates, List.mem_filterMap, candidateOf_eq_some]
  constructor
  · rintro ⟨_, h, rfl, h'⟩; exact ⟨h, h'⟩
  · rintro ⟨h, h'⟩; exact ⟨_, h, rfl, h'⟩

/-- A candidate is determined by its path: its key is what the path parses to. -/
theorem dirCandidates_eq_of_path {listing : List (List Char)} {a b : Candidate}
    (ha : a ∈ dirCandidates d base listing) (hb : b ∈ dirCandidates d base listing)
    (h : a.path = b.path) : a = b := by
  have ha' := candidateOf_eq_some.mpr ⟨rfl, (mem_dirCandidates.mp ha).2⟩
  have hb' := candidateOf_eq_some.mpr ⟨h, (mem_dirCandidates.mp hb).2⟩
  exact Option.some.inj (ha'.symm.trans hb')

theorem dirCandidates_nodup {listing : List (List Char)} (h : listing.Nodup) :
    (dirCandidates d base listing).Nodup :=
  h.filterMap fun _ _ _ h1 h2 => (candidateOf_eq_some.mp h1).1.trans (candidateOf_eq_some.mp h2).1.symm

theorem collectCandidates_cons (f : List Char → Bool) (n : List Char) (rest : List (List Char)) :
    collectCandidates d f base (n :: rest) =
      if f n then [] else match candidateOf d base n with
        | none => collectCandidates d f base rest
        | some c => c :: collectCandidates d f base rest := by
  simp only [collectCandidates, candidateOf]
  split
  · rfl
  · split
    · rcases parseRotationSuffix n base with _ | _ <;> rfl
    · rfl

theorem collectCandidates_sublist (f : List Char → Bool) (listing : List (List Char)) :
    List.Sublist (collectCandidates d f base listing) (dirCandidates d base listing) := by
  induction listing with
  | nil => exact .slnil
  | cons n rest ih =>
    rw [collectCandidates_cons, dirCandidates, List.filterMap_cons]
    split
    · exact List.nil_sublist _
    · rcases candidateOf d base n with _ | c
      · exact ih
      · exact ih.cons₂ c

theorem collectCandidates_of_no_fail {f : List Char → Bool} (hf : ∀ n, f n = false)
    (listing : List (List Char)) :
    collectCandidates d f base listing = dirCandidates d base listing := by
  induction listing with
  | nil => rfl
  | cons n rest ih =>
    rw [collectCandidates_cons, dirCandidates, List.filterMap_cons, hf, if_neg Bool.false_ne_true, ih]
    rcases candidateOf d base n <;> rfl

end Candidates

theorem Dir.ne_none_of_isRegular {d : Dir} {n : List Char} (h : d.isRegular n = true) : d n ≠ none := by
  unfold Dir.isRegular at h
  split at h <;> simp_all

theorem removeAll_apply (r : List Char → Bool) (d : Dir) (cs : List Candidate) (n : List Char) :
    removeAll r d cs n = if ∃ c ∈ cs, c.path = n ∧ r c.path = true then none else d n := by
  induction cs generalizing d with
  | nil => simp [removeAll]
  | cons c cs ih =>
    rw [removeAll, ih]
    simp only [List.mem_cons, exists_eq_or_imp]
    by_cases h1 : ∃ c ∈ cs, c.path = n ∧ r c.path = true
    · simp only [h1, or_true, ite_true]
    · simp only [h1, or_false]
      by_cases hc : c.path = n
      · subst hc; cases h : r c.path <;> simp [h]
      · simp only [hc, false_and, ite_false]
        split <;> simp [Ne.symm hc]

theorem parseRotationSuffix_ne_base {n base : List Char} {p : List Char × Nat}
    (h : parseRotationSuffix n base = some p) : n ≠ base := by
  rintro rfl
  have : n.take (n ++ ['.']).length ≠ n ++ ['.'] := by
    rw [List.take_of_length_le (by simp)]; simp
  simp [parseRotationSuffix, this] at h

/-- What the prune guarantees about directory `d'` it leaves of `d`, whose entries `listing`
names: it deletes only candidates, so never the base file, at most the excess over the limit;
and when every status query and removal succeeds, the oldest candidates, leaving
`min count limit`. -/
structure Retention (cfg : Config) (io : Io) (listing : List (List Char)) (d d' : Dir) : Prop where
  keeps_base : d' cfg.basePath = d cfg.basePath
  only_candidates : ∀ n, d' n ≠ d n → d' n = none ∧ ∃ c ∈ dirCandidates d cfg.basePath listing, c.path = n
  at_most_excess : (listing.filter fun n => d' n ≠ d n).length ≤
    (dirCandidates d cfg.basePath listing).length - cfg.maxRotatedFiles
  oldest_first : (∀ n, io.statFails n = false) → (∀ n, io.removeOk n = true) →
    ∀ a ∈ dirCandidates d cfg.basePath listing, ∀ b ∈ dirCandidates d cfg.basePath listing,
      d' a.path = none → d' b.path = d b.path → a.KeyLe b
  keeps_limit : (∀ n, io.statFails n = false) → (∀ n, io.removeOk n = true) →
    ((dirCandidates d cfg.basePath listing).filter fun c => d' c.path = d c.path).length =
      Nat.min (dirCandidates d cfg.basePath listing).length cfg.maxRotatedFiles

/-- Rotations of base `a` within one minute: `a.20240101_00000<sec>`. -/
def sampleRotation (sec : Char) : List Char := "a.20240101_00000".toList ++ [sec]

def sampleCandidate (sec : Char) : Candidate := ⟨sampleRotation sec, "20240101_00000".toList ++ [sec], 0⟩

/-- Three rotations of base `a` and a file `x`, all empty. -/
def sampleDir : Dir := fun n =>
  if n ∈ [sampleRotation '1', sampleRotation '2', sampleRotation '3', ['x']] then some (.regular []) else none

section Prune

variable (cfg : Config) (srt : Sorter)

/-- The candidates the prune tries to delete: the first `count - limit` of the sorted list. -/
def pruneSelection (cs : List Candidate) : List Candidate :=
  (srt.sort cs).take (cs.length - cfg.maxRotatedFiles)

theorem mem_of_mem_pruneSelection {cs : List Candidate} {c : Candidate}
    (h : c ∈ pruneSelection cfg srt cs) : c ∈ cs :=
  (srt.perm cs).subset (List.mem_of_mem_take h)

/-- Everything selected comes no later in key order than everything left. -/
theorem pruneSelection_keyLe {cs : List Candidate} {a b : Candidate} (ha : a ∈ pruneSelection cfg srt cs)
    (hb : b ∈ cs) (hb' : b ∉ pruneSelection cfg srt cs) : a.KeyLe b := by
  have hb2 : b ∈ (srt.sort cs).drop (cs.length - cfg.maxRotatedFiles) := by
    have := (srt.perm cs).mem_iff.mpr hb
    rw [← List.take_append_drop (cs.length - cfg.maxRotatedFiles) (srt.sort cs), List.mem_append] at this
    exact this.resolve_left hb'
  exact Candidate.not_before_iff.mp (by simpa using (srt.sorted cs).rel_of_mem_take_of_mem_drop ha hb2)

/-- Of distinct candidates, exactly `min count limit` are left unselected. -/
theorem pruneSelection_filter_length {cs : List Candidate} (hcs : cs.Nodup) :
    (cs.filter fun c => c ∉ pruneSelection cfg srt cs).length = Nat.min cs.length cfg.maxRotatedFiles := by
  have hL : ((srt.sort cs).take (cs.length - cfg.maxRotatedFiles) ++ (srt.sort cs).drop (cs.length - cfg.maxRotatedFiles)).Nodup := by
    rw [List.take_append_drop]; exact (srt.perm cs).nodup_iff.mpr hcs
  have hdisj := (List.nodup_append.mp hL).2.2
  have hfilter : (srt.sort cs).filter (fun c => c ∉ pruneSelection cfg srt cs) =
      (srt.sort cs).drop (cs.length - cfg.maxRotatedFiles) := by
    conv_lhs => rw [← List.take_append_drop (cs.length - cfg.maxRotatedFiles) (srt.sort cs)]
    rw [List.filter_append, List.filter_eq_nil_iff.mpr fun a ha => by simpa [pruneSelection] using ha,
      List.filter_eq_self.mpr fun a ha => by simpa [pruneSelection] using fun h => hdisj h ha]
    rfl
  calc (cs.filter _).length
      = ((srt.sort cs).filter fun c => c ∉ pruneSelection cfg srt cs).length :=
        ((srt.perm cs).filter _).length_eq.symm
    _ = Nat.min cs.length cfg.maxRotatedFiles := by
        rw [hfilter, List.length_drop, (srt.perm cs).length_eq]
        show _ = min _ _; omega

variable (io : Io) (d : Dir) {listing : List (List Char)}

/-- With a limit and a listing, the prune tries to delete what it selects from its
collection; below the limit that is nothing. -/
theorem pruneOldRotationsLocked_of_scan (hN : 0 < cfg.maxRotatedFiles) (hscan : io.scan = some listing) :
    pruneOldRotationsLocked cfg srt io d = removeAll io.removeOk d
      (pruneSelection cfg srt (collectCandidates d io.statFails cfg.basePath listing)) := by
  simp only [pruneOldRotationsLocked, Nat.pos_iff_ne_zero.mp hN, hscan, ite_false, pruneSelection]
  split
  · rw [Nat.sub_eq_zero_of_le ‹_›]; rfl
  · rfl

/-- An entry the prune changes was a selected candidate, and it is now gone. -/
theorem pruneOldRotationsLocked_ne (hN : 0 < cfg.maxRotatedFiles) (hscan : io.scan = some listing)
    {n : List Char} (h : pruneOldRotationsLocked cfg srt io d n ≠ d n) :
    pruneOldRotationsLocked cfg srt io d n = none ∧
      ∃ c ∈ pruneSelection cfg srt (collectCandidates d io.statFails cfg.basePath listing), c.path = n := by
  rw [pruneOldRotationsLocked_of_scan cfg srt io d hN hscan, removeAll_apply] at h ⊢
  split at h
  · rename_i hx
    obtain ⟨c, hc, hn, hr⟩ := hx
    exact ⟨if_pos ⟨c, hc, hn, hr⟩, c, hc, hn⟩
  · exact absurd rfl h

/-- The prune never touches the base file. -/
theorem pruneOldRotationsLocked_base : pruneOldRotationsLocked cfg srt io d cfg.basePath = d cfg.basePath := by
  by_contra h
  unfold pruneOldRotationsLocked at h
  split at h
  · exact h rfl
  · rcases hscan : io.scan with _ | listing
    · simp [hscan] at h
    · obtain ⟨-, c, hc, hp⟩ := pruneOldRotationsLocked_ne cfg srt io d (Nat.pos_of_ne_zero ‹_›) hscan
        (by unfold pruneOldRotationsLocked; simpa [*] using h)
      have := (mem_dirCandidates.mp ((collectCandidates_sublist _ _).subset
        (mem_of_mem_pruneSelection cfg srt hc))).2.2
      exact parseRotationSuffix_ne_base this hp

/-- With every status query and removal succeeding, a candidate is deleted exactly when it
is selected. -/
theorem pruneOldRotationsLocked_candidate (hN : 0 < cfg.maxRotatedFiles) (hscan : io.scan = some listing)
    (hf : ∀ n, io.statFails n = false) (hr : ∀ n, io.removeOk n = true) {a : Candidate}
    (ha : a ∈ dirCandidates d cfg.basePath listing) :
    pruneOldRotationsLocked cfg srt io d a.path =
      if a ∈ pruneSelection cfg srt (dirCandidates d cfg.basePath listing) then none else d a.path := by
  rw [pruneOldRotationsLocked_of_scan cfg srt io d hN hscan, removeAll_apply,
    collectCandidates_of_no_fail hf]
  simp only [hr, and_true]
  by_cases hsel : a ∈ pruneSelection cfg srt (dirCandidates d cfg.basePath listing)
  · rw [if_pos ⟨a, hsel, rfl⟩, if_pos hsel]
  · rw [if_neg hsel, if_neg]
    rintro ⟨c, hc, hp⟩
    exact hsel (dirCandidates_eq_of_path (mem_of_mem_pruneSelection cfg srt hc) ha hp ▸ hc)

theorem pruneOldRotationsLocked_retention (hN : 0 < cfg.maxRotatedFiles) (hscan : io.scan = some listing)
    (hnodup : listing.Nodup) :
    Retention cfg io listing d (pruneOldRotationsLocked cfg srt io d) := by
  have hsub : List.Sublist (collectCandidates d io.statFails cfg.basePath listing)
      (dirCandidates d cfg.basePath listing) := collectCandidates_sublist _ _
  have hreg : ∀ c ∈ dirCandidates d cfg.basePath listing, d c.path ≠ none :=
    fun c hc => Dir.ne_none_of_isRegular (mem_dirCandidates.mp hc).2.1
  refine ⟨pruneOldRotationsLocked_base cfg srt io d, fun n h => ?_, ?_, fun hf hr a ha b hb h1 h2 => ?_,
    fun hf hr => ?_⟩
  · obtain ⟨h1, c, hc, rfl⟩ := pruneOldRotationsLocked_ne cfg srt io d hN hscan h
    exact ⟨h1, c, hsub.subset (mem_of_mem_pruneSelection cfg srt hc), rfl⟩
  · -- each changed entry is the path of a selected candidate, and the listing names it once
    have hchanged : ∀ n ∈ listing.filter fun n => pruneOldRotationsLocked cfg srt io d n ≠ d n,
        n ∈ (pruneSelection cfg srt (collectCandidates d io.statFails cfg.basePath listing)).map
          Candidate.path := fun n hn => by
      obtain ⟨-, c, hc, rfl⟩ :=
        pruneOldRotationsLocked_ne cfg srt io d hN hscan (by simpa using (List.mem_filter.mp hn).2)
      exact List.mem_map_of_mem _ hc
    calc _ ≤ ((pruneSelection cfg srt (collectCandidates d io.statFails cfg.basePath listing)).map
            Candidate.path).length := (List.subperm_of_subset (hnodup.filter _) hchanged).length_le
      _ ≤ (collectCandidates d io.statFails cfg.basePath listing).length - cfg.maxRotatedFiles := by
          rw [List.length_map]; exact List.length_take_le _ _
      _ ≤ _ := Nat.sub_le_sub_right hsub.length_le _
  · rw [pruneOldRotationsLocked_candidate cfg srt io d hN hscan hf hr ha] at h1
    rw [pruneOldRotationsLocked_candidate cfg srt io d hN hscan hf hr hb] at h2
    have hasel : a ∈ pruneSelection cfg srt (dirCandidates d cfg.basePath listing) := by
      by_contra hn; rw [if_neg hn] at h1; exact hreg a ha h1
    have hbsel : b ∉ pruneSelection cfg srt (dirCandidates d cfg.basePath listing) := fun hs => by
      rw [if_pos hs] at h2; exact hreg b hb h2.symm
    exact pruneSelection_keyLe cfg srt hasel hb hbsel
  · rw [← pruneSelection_filter_length cfg srt (dirCandidates_nodup hnodup)]
    congr 1
    refine List.filter_congr fun c hc => ?_
    rw [pruneOldRotationsLocked_candidate cfg srt io d hN hscan hf hr hc]
    by_cases hs : c ∈ pruneSelection cfg srt (dirCandidates d cfg.basePath listing)
    · simp [hs, Ne.symm (hreg c hc)]
    · simp [hs]

theorem pruneOldRotationsLocked_retention_sample :
    (0 < 1 ∧ [sampleRotation '1', sampleRotation '2', sampleRotation '3'].Nodup) ∧
    Retention ⟨['a'], 1, false, 1⟩ { okIo with scan := some [sampleRotation '1', sampleRotation '2', sampleRotation '3'] }
      [sampleRotation '1', sampleRotation '2', sampleRotation '3'] sampleDir
      (pruneOldRotationsLocked ⟨['a'], 1, false, 1⟩ mergeSorter
        { okIo with scan := some [sampleRotation '1', sampleRotation '2', sampleRotation '3'] } sampleDir) :=
  ⟨⟨by decide, by decide⟩, pruneOldRotationsLocked_retention ⟨['a'], 1, false, 1⟩ mergeSorter _ sampleDir
    (by decide) rfl (by decide)⟩

end Prune

theorem pruneOldRotationsLocked_counterexamples :
    -- the status query of `x` fails: the scan stops there, so `.1` is never compared
    (let io := { okIo with
        scan := some [sampleRotation '2', sampleRotation '3', ['x'], sampleRotation '1'],
        statFails := fun n => n = ['x'] };
      [sampleCandidate '1', sampleCandidate '2'] ⊆ dirCandidates sampleDir ['a']
        [sampleRotation '2', sampleRotation '3', ['x'], sampleRotation '1'] ∧
      pruneOldRotationsLocked ⟨['a'], 1, false, 1⟩ mergeSorter io sampleDir (sampleRotation '2') = none ∧
      pruneOldRotationsLocked ⟨['a'], 1, false, 1⟩ mergeSorter io sampleDir (sampleRotation '1') =
        sampleDir (sampleRotation '1') ∧
      ¬ (sampleCandidate '2').KeyLe (sampleCandidate '1')) ∧
    -- the oldest rotation cannot be removed: it stays, and the next one goes
    (let io := { okIo with
        scan := some [sampleRotation '1', sampleRotation '2', sampleRotation '3'],
        removeOk := fun n => n ≠ sampleRotation '1' };
      pruneOldRotationsLocked ⟨['a'], 1, false, 1⟩ mergeSorter io sampleDir (sampleRotation '2') = none ∧
      pruneOldRotationsLocked ⟨['a'], 1, false, 1⟩ mergeSorter io sampleDir (sampleRotation '1') =
        sampleDir (sampleRotation '1') ∧
      ¬ (sampleCandidate '2').KeyLe (sampleCandidate '1')) ∧
    -- one candidate under a limit of two: one remains, not two
    (let io := { okIo with scan := some [sampleRotation '1'] };
      ((dirCandidates sampleDir ['a'] [sampleRotation '1']).filter fun c =>
        pruneOldRotationsLocked ⟨['a'], 1, false, 2⟩ mergeSorter io sampleDir c.path = sampleDir c.path).length ≠ 2) := by
  refine ⟨?_, ?_, ?_⟩
  · intro io
    rw [pruneOldRotationsLocked_of_scan ⟨['a'], 1, false, 1⟩ mergeSorter io sampleDir (by decide) rfl]
    have : collectCandidates sampleDir (fun n => decide (n = ['x'])) ['a']
        [sampleRotation '2', sampleRotation '3', ['x'], sampleRotation '1'] =
        [sampleCandidate '2', sampleCandidate '3'] := by decide
    simp only [this, pruneSelection, mergeSorter.sort_eq_self (by decide : [sampleCandidate '2', sampleCandidate '3'].Pairwise _)]
    decide
  · intro io
    rw [pruneOldRotationsLocked_of_scan ⟨['a'], 1, false, 1⟩ mergeSorter io sampleDir (by decide) rfl]
    have : collectCandidates sampleDir okIo.statFails ['a']
        [sampleRotation '1', sampleRotation '2', sampleRotation '3'] =
        [sampleCandidate '1', sampleCandidate '2', sampleCandidate '3'] := by decide
    simp only [this, pruneSelection, mergeSorter.sort_eq_self
      (by decide : [sampleCandidate '1', sampleCandidate '2', sampleCandidate '3'].Pairwise _)]
    decide
  · intro io
    rw [pruneOldRotationsLocked_of_scan ⟨['a'], 1, false, 2⟩ mergeSorter io sampleDir (by decide) rfl]
    have : collectCandidates sampleDir okIo.statFails ['a'] [sampleRotation '1'] = [sampleCandidate '1'] := by
      decide
    simp only [this, pruneSelection, mergeSorter.sort_eq_self (List.pairwise_singleton _ (sampleCandidate '1'))]
    decide

end SimLogger
