import Mathlib.Tactic.SplitIfs
import SimLogger.Spec.Level

/-! `level_from_string` accepts exactly the canonical names and `WARNING`, compared after
mapping only `a`..`z` to upper case, and `to_string` round-trips through it. The loop of
`iequals_ascii` is the equality of the two upper-cased strings, and `to_upper_ascii` is core's
`Char.toUpper`, which moves exactly the code points of `a`..`z` down by 32. -/

namespace SimLogger

theorem iequalsAscii_iff (a b : List Char) :
    iequalsAscii a b = true ↔ a.map toUpperAscii = b.map toUpperAscii := by
  induction a generalizing b with
  | nil => cases b <;> simp [iequalsAscii]
  | cons x a ih =>
    cases b with
    | nil => simp [iequalsAscii]
    | cons y b =>
      have := ih b
      simp only [iequalsAscii, Bool.and_eq_true, decide_eq_true_eq] at this
      simp only [iequalsAscii, List.length_cons, Nat.add_right_cancel_iff, List.zip_cons_cons,
        List.all_cons, Bool.and_eq_true, decide_eq_true_eq, List.map_cons, List.cons.injEq, ← this]
      exact and_left_comm

theorem iequalsAscii_upper (s n : List Char) (hn : n.map toUpperAscii = n) :
    iequalsAscii s n = decide (s.map toUpperAscii = n) := by
  rw [Bool.eq_iff_iff, iequalsAscii_iff, hn, decide_eq_true_iff]

theorem levelFromString_eq (s : List Char) : levelFromString s =
    let u := s.map toUpperAscii
    if u = ['D', 'E', 'B', 'U', 'G'] then some .debug
    else if u = ['I', 'N', 'F', 'O'] then some .info
    else if u = ['W', 'A', 'R', 'N'] ∨ u = ['W', 'A', 'R', 'N', 'I', 'N', 'G'] then some .warn
    else if u = ['E', 'R', 'R', 'O', 'R'] then some .error
    else if u = ['F', 'A', 'T', 'A', 'L'] then some .fatal
    else none := by
  rw [levelFromString, iequalsAscii_upper s ['D', 'E', 'B', 'U', 'G'] (by decide),
    iequalsAscii_upper s ['I', 'N', 'F', 'O'] (by decide),
    iequalsAscii_upper s ['W', 'A', 'R', 'N'] (by decide),
    iequalsAscii_upper s ['W', 'A', 'R', 'N', 'I', 'N', 'G'] (by decide),
    iequalsAscii_upper s ['E', 'R', 'R', 'O', 'R'] (by decide),
    iequalsAscii_upper s ['F', 'A', 'T', 'A', 'L'] (by decide)]
  simp only [Bool.or_eq_true, decide_eq_true_eq]

/-- `to_upper_ascii` maps what `Char.toUpper` maps, `a`..`z`, to the same letters. -/
theorem toUpperAscii_eq_toUpper (c : Char) : toUpperAscii c = c.toUpper := by
  simp only [toUpperAscii, Char.toUpper, ge_iff_le, show 'a'.toNat = 97 from rfl, show 'z'.toNat = 122 from rfl,
    show 'A'.toNat = 65 from rfl]
  split_ifs with h
  · congr 1; omega
  · rfl

/-- The names of each level in upper case: `DEBUG`, `INFO`, `WARN` or `WARNING`, `ERROR`,
`FATAL`. -/
def acceptedNames : Level → List (List Char)
  | .debug => [['D', 'E', 'B', 'U', 'G']]
  | .info => [['I', 'N', 'F', 'O']]
  | .warn => [['W', 'A', 'R', 'N'], ['W', 'A', 'R', 'N', 'I', 'N', 'G']]
  | .error => [['E', 'R', 'R', 'O', 'R']]
  | .fatal => [['F', 'A', 'T', 'A', 'L']]

theorem levelFromString_exact :
    (∀ s l, levelFromString s = some l ↔ s.map Char.toUpper ∈ acceptedNames l) ∧
      ∀ l, levelFromString l.toString = some l := by
  refine ⟨fun s l => ?_, fun l => by cases l <;> rfl⟩
  rw [levelFromString_eq, show Char.toUpper = toUpperAscii from funext fun c => (toUpperAscii_eq_toUpper c).symm]
  dsimp only
  generalize s.map toUpperAscii = u
  constructor
  · intro h
    split_ifs at h with h1 h2 h3 h4 h5 <;> cases h
    all_goals simp [acceptedNames, *]
  · intro h
    cases l <;> simp only [acceptedNames, List.mem_cons, List.mem_singleton,
      List.not_mem_nil, or_false] at h <;> rcases h with rfl | rfl <;> rfl

example : levelFromString ['w', 'A', 'r', 'N', 'i', 'n', 'g'] = some .warn ∧
    levelFromString ['I', 'N', 'F', 'O', ' '] = none ∧ iequalsAscii ['@'] [Char.ofNat 96] = false := by
  decide

end SimLogger
