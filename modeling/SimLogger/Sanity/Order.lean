import Mathlib.Order.Defs.Unbundled
import SimLogger.Spec.RotatingFileSink

/-! The prune's sort comparator is a strict total order on `(ts, seq)` keys: `std::string`
comparison is one on byte strings, and ties fall to the sequence number. So `std::sort` is
well defined on candidates, and a merge sort is one of its implementations. -/

namespace SimLogger

theorem Char.eq_of_toNat_eq {a b : Char} (h : a.toNat = b.toNat) : a = b := by
  rcases a with ⟨⟨⟨a, ha⟩⟩, va⟩
  rcases b with ⟨⟨⟨b, hb⟩⟩, vb⟩
  simp only [Char.toNat, UInt32.toNat] at h
  subst h
  rfl

section Str

theorem strLt_cons (a b : Char) (as bs : List Char) :
    strLt (a :: as) (b :: bs) = (a.toNat < b.toNat || a = b && strLt as bs) := by
  simp only [strLt]
  by_cases h : a.toNat < b.toNat
  · simp [h]
  · by_cases e : a = b <;> simp [h, e]

theorem strLt_irrefl (x : List Char) : strLt x x = false := by
  induction x with
  | nil => rfl
  | cons a as ih => simp [strLt_cons, ih]

theorem strLt_asymm {x y : List Char} (h : strLt x y = true) : strLt y x = false := by
  induction x generalizing y with
  | nil => cases y <;> simp_all [strLt]
  | cons a as ih =>
    cases y with
    | nil => simp [strLt] at h
    | cons b bs =>
      simp only [strLt_cons, Bool.or_eq_true, decide_eq_true_eq, Bool.and_eq_true] at h ⊢
      rcases h with h | ⟨rfl, h⟩
      · have : ¬ b = a := fun e => by subst e; omega
        simp [this, Nat.not_lt.mpr (Nat.le_of_lt h)]
      · simp [ih h]

theorem strLt_trans {x y z : List Char} (hxy : strLt x y = true) (hyz : strLt y z = true) :
    strLt x z = true := by
  induction x generalizing y z with
  | nil => cases y <;> cases z <;> simp_all [strLt]
  | cons a as ih =>
    cases y with
    | nil => simp [strLt] at hxy
    | cons b bs =>
      cases z with
      | nil => simp [strLt] at hyz
      | cons c cs =>
        simp only [strLt_cons, Bool.or_eq_true, decide_eq_true_eq, Bool.and_eq_true] at hxy hyz ⊢
        rcases hxy with h1 | ⟨rfl, h1⟩ <;> rcases hyz with h2 | ⟨rfl, h2⟩
        · exact .inl (by omega)
        · exact .inl h1
        · exact .inl h2
        · exact .inr ⟨rfl, ih h1 h2⟩

theorem strLt_total {x y : List Char} (h : x ≠ y) : strLt x y = true ∨ strLt y x = true := by
  induction x generalizing y with
  | nil => cases y <;> simp_all [strLt]
  | cons a as ih =>
    cases y with
    | nil => simp [strLt]
    | cons b bs =>
      simp only [strLt_cons, Bool.or_eq_true, decide_eq_true_eq, Bool.and_eq_true]
      by_cases e : a = b
      · subst e
        exact (ih fun h' => h (h' ▸ rfl)).imp (.inr ⟨rfl, ·⟩) (.inr ⟨rfl, ·⟩)
      · have : a.toNat ≠ b.toNat := fun h' => e (Char.eq_of_toNat_eq h')
        omega

end Str

section Key

variable {a b c : Candidate}

/-- The `(ts, seq)` key of `a` is at most that of `b`. -/
def Candidate.KeyLe (a b : Candidate) : Prop := strLt a.ts b.ts = true ∨ a.ts = b.ts ∧ a.seq ≤ b.seq

instance (a b : Candidate) : Decidable (a.KeyLe b) :=
  inferInstanceAs (Decidable (strLt a.ts b.ts = true ∨ a.ts = b.ts ∧ a.seq ≤ b.seq))

theorem Candidate.before_asymm (h : a.before b = true) : b.before a = false := by
  unfold Candidate.before at *
  by_cases e : a.ts = b.ts
  · simp_all; omega
  · simp only [e, Ne.symm e, ne_eq, not_false_eq_true, ite_true] at h ⊢
    exact strLt_asymm h

theorem Candidate.before_trans (h1 : a.before b = true) (h2 : b.before c = true) :
    a.before c = true := by
  unfold Candidate.before at *
  by_cases e1 : a.ts = b.ts <;> by_cases e2 : b.ts = c.ts
  · simp_all; omega
  · simp_all
  · simp_all
  · have := strLt_trans (by simpa [e1] using h1) (by simpa [e2] using h2)
    have e3 : a.ts ≠ c.ts := fun e => by simp [e, strLt_irrefl] at this
    simp [e3, this]

theorem Candidate.before_or_key_eq (a b : Candidate) :
    a.before b = true ∨ b.before a = true ∨ a.ts = b.ts ∧ a.seq = b.seq := by
  unfold Candidate.before
  by_cases e : a.ts = b.ts
  · simp [e]; omega
  · rcases strLt_total e with h | h <;> simp [e, Ne.symm e, h]

theorem Candidate.not_before_iff : b.before a = false ↔ a.KeyLe b := by
  unfold Candidate.KeyLe Candidate.before
  by_cases e : a.ts = b.ts
  · simp [e, strLt_irrefl]
  · have := strLt_total e
    constructor
    · intro h; simp_all [Ne.symm e]
    · rintro (h | ⟨h, -⟩)
      · simp [Ne.symm e, strLt_asymm h]
      · exact absurd h e

/-- `std::sort`'s contract on the comparator: incomparability is transitive. -/
theorem Candidate.before_negTrans (h : c.before a = true) : c.before b = true ∨ b.before a = true := by
  rcases Candidate.before_or_key_eq b a with h' | h' | ⟨ht, hs⟩
  · exact .inr h'
  · exact .inl (Candidate.before_trans h h')
  · left
    unfold Candidate.before at *
    simpa [ht, hs] using h

/-- The comparator leaves two candidates unordered exactly when their `(ts, seq)` keys are
equal, whatever their paths. -/
theorem Candidate.unordered_iff : a.before b = false ∧ b.before a = false ↔ a.ts = b.ts ∧ a.seq = b.seq := by
  refine ⟨fun ⟨h1, h2⟩ => ?_, fun ⟨ht, hs⟩ => ?_⟩
  · rcases Candidate.before_or_key_eq a b with h | h | h
    · simp [h] at h1
    · simp [h] at h2
    · exact h
  · unfold Candidate.before
    simp [ht, hs]

/-- The comparator meets `std::sort`'s requirement on it: a strict weak order, under which the
candidates left unordered are those with equal `(ts, seq)` keys. -/
theorem Candidate.before_strictWeakOrder :
    IsStrictWeakOrder Candidate (fun a b => a.before b = true) ∧
      ∀ a b : Candidate, (a.before b = false ∧ b.before a = false ↔ a.ts = b.ts ∧ a.seq = b.seq) := by
  have : IsStrictOrder Candidate (fun a b => a.before b = true) :=
    { irrefl := fun a h => by simp [Candidate.before] at h
      trans := fun _ _ _ => Candidate.before_trans }
  refine ⟨⟨fun a b c hab hbc => ?_⟩, fun _ _ => Candidate.unordered_iff⟩
  simp only [Bool.not_eq_true] at hab hbc ⊢
  obtain ⟨h1, h2⟩ := Candidate.unordered_iff.1 hab
  obtain ⟨h3, h4⟩ := Candidate.unordered_iff.1 hbc
  exact Candidate.unordered_iff.2 ⟨h1.trans h3, h2.trans h4⟩

end Key

/-- A list in strictly increasing key order is the only arrangement of its elements in which
no element comes before an earlier one. -/
theorem Candidate.eq_of_perm_of_sorted {l m : List Candidate} (h : l.Pairwise fun a b => a.before b = true)
    (hp : m.Perm l) (hm : m.Pairwise fun a b => !b.before a) : m = l := by
  induction l generalizing m with
  | nil => exact hp.eq_nil
  | cons x xs ih =>
    rcases m with _ | ⟨y, ys⟩
    · exact absurd hp.nil_eq (List.cons_ne_nil x xs).symm
    have hyx : y = x := Classical.byContradiction fun hne => by
      have hx : x ∈ ys := (List.mem_cons.mp (hp.symm.subset (List.mem_cons_self x xs))).resolve_left
        fun e => hne e.symm
      have hy : y ∈ xs := (List.mem_cons.mp (hp.subset (List.mem_cons_self y ys))).resolve_left hne
      have h1 := (List.pairwise_cons.mp hm).1 x hx
      have h2 := (List.pairwise_cons.mp h).1 y hy
      simp_all
    subst hyx
    rw [ih (List.pairwise_cons.mp h).2 ((List.perm_cons y).mp hp) (List.pairwise_cons.mp hm).2]

/-- `std::sort` leaves a list already in strictly increasing key order as it is, whatever
it does with ties. -/
theorem Sorter.sort_eq_self (srt : Sorter) {l : List Candidate}
    (h : l.Pairwise fun a b => a.before b = true) : srt.sort l = l :=
  Candidate.eq_of_perm_of_sorted h (srt.perm l) (srt.sorted l)

/-- A stable merge sort with `Candidate.before`: one `std::sort`. -/
def mergeSorter : Sorter where
  sort l := l.mergeSort fun a b => !b.before a
  perm l := List.mergeSort_perm l _
  sorted l := List.sorted_mergeSort
    (fun a b c hab hbc => by
      simp only [Bool.not_eq_true'] at *
      cases h : c.before a
      · rfl
      · rcases Candidate.before_negTrans (b := b) h with h' | h' <;> simp_all)
    (fun a b => by
      cases h : b.before a
      · rfl
      · simp [Candidate.before_asymm h])
    l

end SimLogger
