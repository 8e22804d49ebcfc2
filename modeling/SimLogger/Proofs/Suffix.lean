import Mathlib.Tactic.SplitIfs
import Mathlib.Data.Nat.Digits
import SimLogger.Spec.Suffix

/-! `parse_rotation_suffix` accepts exactly the names `base.YYYYMMDD_HHMMSS` and
`base.YYYYMMDD_HHMMSS.N`, with `N` one or more digits, and reads back the timestamp and `N`
modulo 2^32 (its `std::uint32_t` accumulator wraps). Every index it reads is below a length
it checked first: the model's indexing carries that bound. So the prune recognises every
name `rotate_locked` builds, with the key it was built from. -/

namespace SimLogger

/-- The decimal value of a digit string. -/
def decimalValue (ds : List Char) : Nat := ds.foldl (fun acc c => acc * 10 + (c.toNat - '0'.toNat)) 0

/-- Eight digits, `_`, six digits. -/
def IsStampShape (ts : List Char) : Prop :=
  ∃ d8 d6, d8.length = 8 ∧ d8.all Char.isDigit ∧ d6.length = 6 ∧ d6.all Char.isDigit ∧ ts = d8 ++ '_' :: d6

/-- `filename` is `base.ts`, read as `(ts, 0)`, or `base.ts.N`, read as `(ts, N mod 2^32)`. -/
def IsRotationName (filename base ts : List Char) (seq : Nat) : Prop :=
  IsStampShape ts ∧
    (filename = base ++ '.' :: ts ∧ seq = 0 ∨
      ∃ ds, ds ≠ [] ∧ ds.all Char.isDigit ∧ filename = base ++ '.' :: (ts ++ '.' :: ds) ∧
        seq = decimalValue ds % 4294967296)

theorem isStampShape_iff {ts : List Char} :
    IsStampShape ts ↔
      ts.length = 15 ∧ (ts.take 8).all Char.isDigit ∧ ts[8]? = some '_' ∧ (ts.drop 9).all Char.isDigit := by
  constructor
  · rintro ⟨d8, d6, h8, a8, h6, a6, rfl⟩
    have hd : List.drop 9 (d8 ++ '_' :: d6) = d6 := by
      rw [List.drop_append_eq_append_drop]; simp [h8]
    simp [h8, h6, a8, a6, hd, List.getElem_append_right]
  · rintro ⟨hl, a8, h_, a6⟩
    refine ⟨ts.take 8, ts.drop 9, by rw [List.length_take, hl]; rfl, a8, by simp [hl], a6, ?_⟩
    have h8 : 8 < ts.length := by omega
    have : ts[8] = '_' := by simpa [List.getElem?_eq_getElem h8] using h_
    rw [← this, ← List.drop_eq_getElem_cons h8, List.take_append_drop]

theorem foldl_decimalAcc_mod (ds : List Char) (a : Nat) :
    ds.foldl decimalAcc (a % 4294967296) =
      ds.foldl (fun acc c => acc * 10 + (c.toNat - '0'.toNat)) a % 4294967296 := by
  induction ds generalizing a with
  | nil => rfl
  | cons c ds ih =>
    rw [List.foldl_cons, List.foldl_cons, ← ih]
    congr 1
    simp only [decimalAcc]
    omega

theorem foldl_decimalAcc (ds : List Char) : ds.foldl decimalAcc 0 = decimalValue ds % 4294967296 :=
  foldl_decimalAcc_mod ds 0

/-- The name's prefix only decides whether the rest is read. -/
theorem parseRotationSuffix_append (base rest : List Char) :
    parseRotationSuffix (base ++ '.' :: rest) base = parseRotationSuffix ('.' :: rest) [] := by
  have h1 : List.drop (base ++ ['.']).length (base ++ '.' :: rest) = rest := by simp
  have h2 : List.take (base ++ ['.']).length (base ++ '.' :: rest) = base ++ ['.'] := by
    simpa using List.take_left (base ++ ['.']) rest
  have h1' : List.drop ([] ++ ['.']).length ('.' :: rest) = rest := rfl
  have h2' : List.take ([] ++ ['.']).length ('.' :: rest) = [] ++ ['.'] := rfl
  simp only [parseRotationSuffix, h1, h2, h1', h2', ne_eq, not_true_eq_false, ite_false]

theorem parseRotationSuffix_prefix {filename base : List Char} {r : List Char × Nat}
    (h : parseRotationSuffix filename base = some r) : ∃ rest, filename = base ++ '.' :: rest := by
  by_cases hp : filename.take (base ++ ['.']).length = base ++ ['.']
  · refine ⟨filename.drop (base ++ ['.']).length, ?_⟩
    conv => lhs; rw [← List.take_append_drop (base ++ ['.']).length filename, hp]
    simp
  · simp only [parseRotationSuffix, ne_eq, hp, not_false_eq_true, ite_true] at h
    cases h

theorem parseRotationSuffix_dot (rest : List Char) :
    parseRotationSuffix ('.' :: rest) [] =
      if h : rest.length < 15 then none
      else if (!(List.take 8 (List.take 15 rest)).all Char.isDigit) = true then none
      else if rest[8] ≠ '_' then none
      else if (!(List.drop 9 (List.take 15 rest)).all Char.isDigit) = true then none
      else if h : 15 < rest.length then
        if rest[15] ≠ '.' then none
        else if List.drop 16 rest = [] then none
        else if (!(List.drop 16 rest).all Char.isDigit) = true then none
        else some (List.take 15 rest, List.foldl decimalAcc 0 (List.drop 16 rest))
      else some (List.take 15 rest, 0) := rfl

theorem parseRotationSuffix_dot_eq_some {rest ts : List Char} {seq : Nat} :
    parseRotationSuffix ('.' :: rest) [] = some (ts, seq) ↔
      IsStampShape ts ∧ (rest = ts ∧ seq = 0 ∨
        ∃ ds, ds ≠ [] ∧ ds.all Char.isDigit ∧ rest = ts ++ '.' :: ds ∧ seq = decimalValue ds % 4294967296) := by
  rw [parseRotationSuffix_dot, isStampShape_iff]
  constructor
  · -- each check the parser passes is a fact about `rest`
    intro h
    obtain ⟨h1, h⟩ := Option.dite_none_left_eq_some.mp h
    obtain ⟨h2, h⟩ := Option.ite_none_left_eq_some.mp h
    obtain ⟨h3, h⟩ := Option.ite_none_left_eq_some.mp h
    obtain ⟨h4, h⟩ := Option.ite_none_left_eq_some.mp h
    have hs : (List.take 15 rest).length = 15 ∧ (List.take 8 (List.take 15 rest)).all Char.isDigit ∧
        (List.take 15 rest)[8]? = some '_' ∧ (List.drop 9 (List.take 15 rest)).all Char.isDigit := by
      refine ⟨by simp; omega, by simpa using h2, ?_, by simpa using h4⟩
      rw [List.getElem?_take_of_lt (by decide), List.getElem?_eq_getElem (by omega), not_not.mp h3]
    by_cases h5 : 15 < rest.length
    · rw [dif_pos h5] at h
      obtain ⟨h6, h⟩ := Option.ite_none_left_eq_some.mp h
      obtain ⟨h7, h⟩ := Option.ite_none_left_eq_some.mp h
      obtain ⟨h8, h⟩ := Option.ite_none_left_eq_some.mp h
      cases h
      refine ⟨hs, .inr ⟨rest.drop 16, h7, by simpa using h8, ?_, foldl_decimalAcc _⟩⟩
      rw [← not_not.mp h6, ← List.drop_eq_getElem_cons h5, List.take_append_drop]
    · rw [dif_neg h5] at h
      cases h
      exact ⟨hs, .inl ⟨(List.take_of_length_le (by omega)).symm, rfl⟩⟩
  · rintro ⟨⟨hl, a8, h_, a6⟩, ⟨rfl, rfl⟩ | ⟨ds, hds, ads, rfl, rfl⟩⟩
    · have h8l : 8 < rest.length := by omega
      have h8 : rest[8] = '_' := by simpa [List.getElem?_eq_getElem h8l] using h_
      simp [hl, a8, a6, h8, List.take_of_length_le]
    · have h8l : 8 < ts.length := by omega
      have h8 : ts[8] = '_' := by simpa [List.getElem?_eq_getElem h8l] using h_
      have hd : (ts ++ '.' :: ds).drop 16 = ds := by
        rw [List.drop_append_eq_append_drop]; simp [hl]
      simp [hl, a8, a6, h8, hds, ads, hd, List.take_left', List.getElem_append_left, List.getElem_append_right,
        foldl_decimalAcc]

theorem parseRotationSuffix_eq_some {filename base ts : List Char} {seq : Nat} :
    parseRotationSuffix filename base = some (ts, seq) ↔ IsRotationName filename base ts seq := by
  constructor
  · intro h
    obtain ⟨rest, rfl⟩ := parseRotationSuffix_prefix h
    rw [parseRotationSuffix_append, parseRotationSuffix_dot_eq_some] at h
    obtain ⟨hs, ⟨rfl, rfl⟩ | ⟨ds, hds, ads, rfl, rfl⟩⟩ := h
    · exact ⟨hs, .inl ⟨rfl, rfl⟩⟩
    · exact ⟨hs, .inr ⟨ds, hds, ads, rfl, rfl⟩⟩
  · rintro ⟨hs, ⟨rfl, rfl⟩ | ⟨ds, hds, ads, rfl, rfl⟩⟩ <;>
      rw [parseRotationSuffix_append, parseRotationSuffix_dot_eq_some]
    · exact ⟨hs, .inl ⟨rfl, rfl⟩⟩
    · exact ⟨hs, .inr ⟨ds, hds, ads, rfl, rfl⟩⟩

theorem digitChar_decimal : ∀ d, d < 10 → (Nat.digitChar d).toNat - '0'.toNat = d ∧ (Nat.digitChar d).isDigit = true := by
  decide

theorem toDigitsCore_append (fuel n : Nat) (ds : List Char) :
    Nat.toDigitsCore 10 fuel n ds = Nat.toDigitsCore 10 fuel n [] ++ ds := by
  induction fuel generalizing n ds with
  | zero => rfl
  | succ fuel ih =>
    simp only [Nat.toDigitsCore]
    split
    · rfl
    · rw [ih _ (_ :: ds), ih _ [_], List.append_assoc, List.singleton_append]

/-- `std::to_string` of a number: its digits, whose decimal value is the number. -/
theorem toDigits_decimal (k : Nat) :
    decimalValue (Nat.toDigits 10 k) = k ∧ (Nat.toDigits 10 k).all Char.isDigit ∧ Nat.toDigits 10 k ≠ [] := by
  suffices ∀ fuel n, n < fuel → decimalValue (Nat.toDigitsCore 10 fuel n []) = n ∧
      (Nat.toDigitsCore 10 fuel n []).all Char.isDigit ∧ Nat.toDigitsCore 10 fuel n [] ≠ [] from
    this (k + 1) k (Nat.lt_succ_self k)
  intro fuel
  induction fuel with
  | zero => intro n h; omega
  | succ fuel ih =>
    intro n hn
    have hd := digitChar_decimal (n % 10) (Nat.mod_lt _ (by decide))
    simp only [Nat.toDigitsCore]
    split
    · rename_i h0
      refine ⟨?_, by simp [hd.2], by simp⟩
      show 0 * 10 + ((n % 10).digitChar.toNat - '0'.toNat) = n
      rw [hd.1]; omega
    · rename_i h0
      obtain ⟨h1, h2, h3⟩ := ih (n / 10) (by omega)
      rw [toDigitsCore_append]
      refine ⟨?_, by simp_all, by simp⟩
      simp only [decimalValue, List.foldl_append, List.foldl_cons, List.foldl_nil] at h1 ⊢
      rw [h1, hd.1]; omega

/-- A `.k` name, read in the directory it is listed in. -/
theorem parseRotationSuffix_seqName {base ts : List Char} (hts : IsStampShape ts) {k : Nat}
    (hk : k < 4294967296) : parseRotationSuffix (seqName (base ++ '.' :: ts) k) base = some (ts, k) := by
  obtain ⟨hv, hd, hne⟩ := toDigits_decimal k
  rw [parseRotationSuffix_eq_some]
  exact ⟨hts, .inr ⟨_, hne, hd, by simp [seqName], by rw [hv, Nat.mod_eq_of_lt hk]⟩⟩

theorem fileName_append (p s : List Char) (h : '/' ∉ s) : fileName (p ++ s) = fileName p ++ s := by
  unfold fileName
  rw [List.foldl_append]
  generalize List.foldl _ [] p = acc
  induction s generalizing acc with
  | nil => simp
  | cons c s ih =>
    simp only [List.foldl_cons, List.mem_cons, not_or] at h ⊢
    rw [if_neg fun e => h.1 e.symm, ih h.2, List.append_assoc, List.singleton_append]

theorem not_mem_of_all_isDigit {ds : List Char} (h : ds.all Char.isDigit) : '/' ∉ ds :=
  fun hm => absurd (List.all_eq_true.mp h _ hm) (by decide)

/-- The names `rotate_locked` builds from `base_path_`, a timestamp and a sequence number
below 2^32 parse back, within the base file's directory, to that timestamp and number. -/
theorem parseRotationSuffix_rotatedName (basePath ts : List Char) (hts : IsStampShape ts) :
    parseRotationSuffix (fileName (basePath ++ '.' :: ts)) (fileName basePath) = some (ts, 0) ∧
    ∀ k, k < 4294967296 →
      parseRotationSuffix (fileName (seqName (basePath ++ '.' :: ts) k)) (fileName basePath) = some (ts, k) := by
  have hslash : '/' ∉ ts := by
    obtain ⟨d8, d6, -, a8, -, a6, rfl⟩ := hts
    simp only [List.mem_append, List.mem_cons, not_or]
    exact ⟨not_mem_of_all_isDigit a8, by decide, not_mem_of_all_isDigit a6⟩
  refine ⟨?_, fun k hk => ?_⟩
  · rw [fileName_append _ _ (by simp [hslash]), parseRotationSuffix_eq_some]
    exact ⟨hts, .inl ⟨rfl, rfl⟩⟩
  · obtain ⟨hv, hd, hne⟩ := toDigits_decimal k
    rw [seqName, List.append_assoc, List.cons_append,
      fileName_append _ _ (by simp [hslash, not_mem_of_all_isDigit hd]), parseRotationSuffix_eq_some]
    exact ⟨hts, .inr ⟨_, hne, hd, rfl, by rw [hv, Nat.mod_eq_of_lt hk]⟩⟩

theorem parseRotationSuffix_spec :
    (∀ filename base ts seq,
      parseRotationSuffix filename base = some (ts, seq) ↔ IsRotationName filename base ts seq) ∧
    ∀ basePath ts, IsStampShape ts →
      parseRotationSuffix (fileName (basePath ++ '.' :: ts)) (fileName basePath) = some (ts, 0) ∧
      ∀ k, k < 4294967296 →
        parseRotationSuffix (fileName (seqName (basePath ++ '.' :: ts) k)) (fileName basePath) = some (ts, k) :=
  ⟨fun _ _ _ _ => parseRotationSuffix_eq_some, parseRotationSuffix_rotatedName⟩

theorem parseRotationSuffix_spec_logs :
    IsStampShape "20240101_000001".toList ∧
    parseRotationSuffix (fileName ("/var/log/app.log".toList ++ '.' :: "20240101_000001".toList))
      (fileName "/var/log/app.log".toList) = some ("20240101_000001".toList, 0) ∧
    ∀ k, k < 4294967296 →
      parseRotationSuffix (fileName (seqName ("/var/log/app.log".toList ++ '.' :: "20240101_000001".toList) k))
        (fileName "/var/log/app.log".toList) = some ("20240101_000001".toList, k) :=
  have h : IsStampShape "20240101_000001".toList :=
    ⟨"20240101".toList, "000001".toList, rfl, rfl, rfl, rfl, rfl⟩
  ⟨h, parseRotationSuffix_spec.2 _ _ h⟩

end SimLogger
