import Mathlib.Tactic.SplitIfs
import SimLogger.Proofs.Suffix
import SimLogger.Sanity.Order

/-! `make_timestamp_utc` orders as time does, until the clock wraps. `gmtime_r` breaks a
`time_t` at or after the Epoch into a valid date and time that count it (`gmtime_breakdown`), so
a later second has a later date, or the same date and a later time. `strftime` prints each field
in a fixed width while the year has four digits, through 9999-12-31 23:59:59, so the text is the
date as eight digits, `_`, and the time as six; fixed-width digit strings compare as their
numbers. The `time_t` is the clock's second while libstdc++'s signed 64-bit count of nanoseconds
holds it, up to 2262-04-11T23:47:16.854775807Z; past that the count wraps, and at 18446744074 s,
in 2554, it is back at the Epoch. -/

namespace SimLogger

/-- Days from 1970-01-01 to 1 January of year `y`, for `y ≥ 1970`. -/
def daysBefore (y : Nat) : Nat :=
  (y - 1970) * 365 + (y - 1969) / 4 + (y - 1601) / 400 - (y - 1901) / 100

/-- The Gregorian rule as three corrections to 365 days. -/
theorem daysInYear_eq (y : Nat) :
    daysInYear y = 365 + (if y % 4 = 0 then 1 else 0) + (if y % 400 = 0 then 1 else 0) -
      (if y % 100 = 0 then 1 else 0) := by
  unfold daysInYear isLeap
  by_cases a : y % 4 = 0 <;> by_cases b : y % 100 = 0 <;> by_cases c : y % 400 = 0 <;> simp [a, b, c] <;> omega

theorem daysBefore_succ {y : Nat} (hy : 1970 ≤ y) : daysBefore (y + 1) = daysBefore y + daysInYear y := by
  have h4 : (y + 1 - 1969) / 4 = (y - 1969) / 4 + if y % 4 = 0 then 1 else 0 := by split <;> omega
  have h100 : (y + 1 - 1901) / 100 = (y - 1901) / 100 + if y % 100 = 0 then 1 else 0 := by split <;> omega
  have h400 : (y + 1 - 1601) / 400 = (y - 1601) / 400 + if y % 400 = 0 then 1 else 0 := by split <;> omega
  have hle : (y - 1901) / 100 ≤ (y - 1969) / 4 + (y - 1601) / 400 := by omega
  have hab : (if y % 100 = 0 then 1 else 0) ≤ (if y % 4 = 0 then 1 else 0) := by split <;> split <;> omega
  unfold daysBefore
  rw [daysInYear_eq, h4, h100, h400, show y + 1 - 1970 = y - 1970 + 1 by omega]
  -- what is left is linear in the quotients and the three corrections
  generalize (if y % 4 = 0 then 1 else 0) = a at *
  generalize (if y % 100 = 0 then 1 else 0) = b at *
  generalize (if y % 400 = 0 then 1 else 0) = c at *
  generalize (y - 1969) / 4 = q4 at *
  generalize (y - 1901) / 100 = q100 at *
  generalize (y - 1601) / 400 = q400 at *
  omega

theorem daysBefore_mono {a b : Nat} (ha : 1970 ≤ a) (hab : a ≤ b) : daysBefore a ≤ daysBefore b := by
  obtain ⟨k, rfl⟩ := Nat.exists_eq_add_of_le hab
  induction k with
  | zero => exact Nat.le_refl _
  | succ k ih => rw [← Nat.add_assoc, daysBefore_succ (by omega)]; exact Nat.le_add_right_of_le (ih (by omega))

theorem yearOfDay_spec (y d : Nat) (hy : 1970 ≤ y) :
    y ≤ (yearOfDay y d).1 ∧ daysBefore (yearOfDay y d).1 + (yearOfDay y d).2 = daysBefore y + d ∧
      (yearOfDay y d).2 < daysInYear (yearOfDay y d).1 := by
  induction y, d using yearOfDay.induct with
  | case1 y d h => rw [yearOfDay, if_pos h]; exact ⟨Nat.le_refl _, rfl, h⟩
  | case2 y d h ih =>
    rw [yearOfDay, if_neg h]
    obtain ⟨h1, h2, h3⟩ := ih (by omega)
    refine ⟨by omega, ?_, h3⟩
    rw [h2, daysBefore_succ hy]; omega

/-- Days from 1 January of year `y` to the first of month `m` (0 is January). -/
def monthStart (y : Nat) : Nat → Nat
  | 0 => 0
  | m + 1 => monthStart y m + daysInMonth y m

theorem monthStart_twelve (y : Nat) : monthStart y 12 = daysInYear y := by
  cases h : isLeap y <;> simp [monthStart, daysInMonth, daysInYear, h]

theorem monthStart_mono (y : Nat) {m m' : Nat} (h : m ≤ m') : monthStart y m ≤ monthStart y m' := by
  obtain ⟨k, rfl⟩ := Nat.exists_eq_add_of_le h
  induction k with
  | zero => exact Nat.le_refl _
  | succ k ih => rw [← Nat.add_assoc, monthStart]; exact Nat.le_add_right_of_le (ih (by omega))

theorem monthOfDay_spec (y m d : Nat) (hm : m ≤ 11) (hd : monthStart y m + d < daysInYear y) :
    (monthOfDay y m d).1 ≤ 11 ∧
      monthStart y (monthOfDay y m d).1 + (monthOfDay y m d).2 = monthStart y m + d ∧
      (monthOfDay y m d).2 < daysInMonth y (monthOfDay y m d).1 := by
  induction m, d using monthOfDay.induct y with
  | case1 m d h ih =>
    rw [monthOfDay, if_pos h]
    have hs : monthStart y (m + 1) + (d - daysInMonth y m) = monthStart y m + d := by
      simp only [monthStart]; omega
    obtain ⟨h1, h2, h3⟩ := ih (by omega) (by omega)
    exact ⟨h1, h2.trans hs, h3⟩
  | case2 m d h =>
    rw [monthOfDay, if_neg h]
    refine ⟨hm, rfl, ?_⟩
    show d < daysInMonth y m
    by_cases hm11 : m < 11
    · omega
    · obtain rfl : m = 11 := by omega
      have h12 : monthStart y 11 + daysInMonth y 11 = daysInYear y := monthStart_twelve y
      omega

/-- The calendar year of `tm`, when it is not negative. -/
def Tm.year (tm : Tm) : Nat := (tm.tmYear + 1900).toNat

/-- `tm` is a valid date and time that counts `t` seconds after the Epoch. -/
structure Breakdown (tm : Tm) (t : Nat) : Prop where
  year_eq : tm.tmYear + 1900 = tm.year
  year : 1970 ≤ tm.year
  mon : tm.tmMon ≤ 11
  mday_pos : 1 ≤ tm.tmMday
  mday_le : tm.tmMday ≤ daysInMonth tm.year tm.tmMon
  day : daysBefore tm.year + monthStart tm.year tm.tmMon + (tm.tmMday - 1) = t / 86400
  hour : tm.tmHour < 24
  minute : tm.tmMin < 60
  second : tm.tmSec < 60
  time : tm.tmHour * 3600 + tm.tmMin * 60 + tm.tmSec = t % 86400

/-- `gmtime_r` at or after the Epoch counts days forward from 1970. -/
theorem gmtime_natCast (t : Nat) : gmtime t =
    let (year, yday) := yearOfDay 1970 (t / 86400)
    let (mon, mday) := monthOfDay year 0 yday
    { tmSec := t % 86400 % 60, tmMin := t % 86400 / 60 % 60, tmHour := t % 86400 / 3600, tmMday := mday + 1,
      tmMon := mon, tmYear := (year : Int) - 1900 } := rfl

theorem gmtime_breakdown (t : Nat) : Breakdown (gmtime t) t := by
  have hy := yearOfDay_spec 1970 (t / 86400) (Nat.le_refl _)
  rcases hY : yearOfDay 1970 (t / 86400) with ⟨Y, yd⟩
  rw [hY] at hy
  obtain ⟨hy1, hy2, hy3⟩ := hy
  dsimp only at hy1 hy2 hy3
  have hm := monthOfDay_spec Y 0 yd (by decide) (by simpa [monthStart] using hy3)
  rcases hM : monthOfDay Y 0 yd with ⟨m, md⟩
  rw [hM] at hm
  obtain ⟨hm1, hm2, hm3⟩ := hm
  dsimp only at hm1 hm2 hm3
  have hY' : ((Y : Int) - 1900 + 1900).toNat = Y := by omega
  have h0 : daysBefore 1970 = 0 := rfl
  have hm0 : monthStart Y 0 = 0 := rfl
  rw [gmtime_natCast, hY]
  dsimp only
  rw [hM]
  refine ⟨?year_eq, ?year, hm1, ?mday_pos, ?mday_le, ?day, ?hour, ?minute, ?second, ?time⟩ <;>
    simp only [Tm.year, hY']
  case year_eq => omega
  case year => omega
  case mday_le => omega
  case day => omega
  all_goals omega

/-- The date as the number `YYYYMMDD`. -/
def Tm.dateKey (tm : Tm) : Nat := tm.year * 10000 + (tm.tmMon + 1) * 100 + tm.tmMday

/-- The time of day as the number `HHMMSS`. -/
def Tm.timeKey (tm : Tm) : Nat := tm.tmHour * 10000 + tm.tmMin * 100 + tm.tmSec

theorem daysInMonth_le (y m : Nat) : daysInMonth y m ≤ 31 := by
  unfold daysInMonth; split <;> (try split) <;> omega

theorem monthStart_add_lt {y m d : Nat} (hm : m ≤ 11) (hd : d < daysInMonth y m) :
    monthStart y m + d < daysInYear y := by
  have := monthStart_mono y (show m + 1 ≤ 12 by omega)
  rw [monthStart_twelve, monthStart] at this
  omega

section

variable {tm1 tm2 : Tm} {t1 t2 : Nat}

/-- A later date is a later day. -/
theorem Breakdown.day_lt (h1 : Breakdown tm1 t1) (h2 : Breakdown tm2 t2) (h : tm1.dateKey < tm2.dateKey) :
    t1 / 86400 < t2 / 86400 := by
  have hd1 := daysInMonth_le tm1.year tm1.tmMon
  have hd2 := daysInMonth_le tm2.year tm2.tmMon
  have h1m := h1.mday_le; have h2m := h2.mday_le; have h1o := h1.mon; have h2o := h2.mon
  have h1p := h1.mday_pos; have h2p := h2.mday_pos; have h1y := h1.year
  unfold Tm.dateKey at h
  rw [← h1.day, ← h2.day]
  rcases (by omega : tm1.year < tm2.year ∨ tm1.year = tm2.year ∧
      (tm1.tmMon < tm2.tmMon ∨ tm1.tmMon = tm2.tmMon ∧ tm1.tmMday < tm2.tmMday)) with hY | ⟨hY, hM | ⟨hM, hD⟩⟩
  · have := monthStart_add_lt h1.mon
      (show tm1.tmMday - 1 < daysInMonth tm1.year tm1.tmMon by omega)
    have := daysBefore_mono (by omega : 1970 ≤ tm1.year + 1) (by omega : tm1.year + 1 ≤ tm2.year)
    rw [daysBefore_succ h1.year] at this
    omega
  · rw [hY] at h1m ⊢
    have := monthStart_mono tm2.year (show tm1.tmMon + 1 ≤ tm2.tmMon by omega)
    rw [monthStart] at this
    omega
  · rw [hY, hM]; omega

theorem Breakdown.key_lt (h1 : Breakdown tm1 t1) (h2 : Breakdown tm2 t2) (ht : t1 < t2) :
    tm1.dateKey < tm2.dateKey ∨ tm1.dateKey = tm2.dateKey ∧ tm1.timeKey < tm2.timeKey := by
  rcases Nat.lt_trichotomy tm1.dateKey tm2.dateKey with h | h | h
  · exact .inl h
  · right
    refine ⟨h, ?_⟩
    have hd1 := daysInMonth_le tm1.year tm1.tmMon
    have hd2 := daysInMonth_le tm2.year tm2.tmMon
    have h1m := h1.mday_le; have h2m := h2.mday_le; have h1o := h1.mon; have h2o := h2.mon
    unfold Tm.dateKey at h
    obtain ⟨hY, hM, hD⟩ : tm1.year = tm2.year ∧ tm1.tmMon = tm2.tmMon ∧ tm1.tmMday = tm2.tmMday := by omega
    have hday : t1 / 86400 = t2 / 86400 := by rw [← h1.day, ← h2.day, hY, hM, hD]
    have := h1.time; have := h2.time; have := h1.minute; have := h2.minute; have := h1.second; have := h2.second
    unfold Tm.timeKey
    omega
  · exact absurd (Breakdown.day_lt h2 h1 h) (by omega)

end

/-- The last `k` decimal digits of `n`, with leading zeros. -/
def fixedDigits : Nat → Nat → List Char
  | 0, _ => []
  | k + 1, n => fixedDigits k (n / 10) ++ [Nat.digitChar (n % 10)]

theorem digitChar_toNat : ∀ d, d < 10 → (Nat.digitChar d).toNat = d + 48 := by decide

theorem fixedDigits_length (k n : Nat) : (fixedDigits k n).length = k := by
  induction k generalizing n with
  | zero => rfl
  | succ k ih => simp [fixedDigits, ih]

theorem fixedDigits_all_isDigit (k n : Nat) : (fixedDigits k n).all Char.isDigit := by
  induction k generalizing n with
  | zero => rfl
  | succ k ih => simp [fixedDigits, List.all_append, ih, (digitChar_decimal _ (Nat.mod_lt n (by decide))).2]

theorem fixedDigits_append_two (a x y : Nat) (hy : y < 100) :
    fixedDigits a x ++ fixedDigits 2 y = fixedDigits (a + 2) (x * 100 + y) := by
  simp only [fixedDigits, List.nil_append, List.append_assoc, List.singleton_append]
  rw [show (x * 100 + y) / 10 / 10 = x by omega, show (x * 100 + y) / 10 % 10 = y / 10 % 10 by omega,
    show (x * 100 + y) % 10 = y % 10 by omega]

theorem strLt_append_of_length_eq {a a' : List Char} (b b' : List Char) (h : a.length = a'.length) :
    strLt (a ++ b) (a' ++ b') = (strLt a a' || decide (a = a') && strLt b b') := by
  induction a generalizing a' with
  | nil => cases a' <;> simp_all [strLt]
  | cons x xs ih =>
    cases a' with
    | nil => simp at h
    | cons y ys =>
      simp only [List.cons_append, strLt_cons, ih (by simpa using h), List.cons.injEq]
      by_cases hxy : x = y <;> by_cases hlt : x.toNat < y.toNat <;> simp [hxy, hlt]

theorem fixedDigits_inj {k x y : Nat} (hx : x < 10 ^ k) (hy : y < 10 ^ k)
    (h : fixedDigits k x = fixedDigits k y) : x = y := by
  induction k generalizing x y with
  | zero => simp at hx hy; omega
  | succ k ih =>
    rw [fixedDigits, fixedDigits] at h
    obtain ⟨h1, h2⟩ := List.append_inj h (by simp [fixedDigits_length])
    have hx' : x / 10 < 10 ^ k := Nat.div_lt_of_lt_mul (by rw [Nat.pow_succ] at hx; omega)
    have hy' : y / 10 < 10 ^ k := Nat.div_lt_of_lt_mul (by rw [Nat.pow_succ] at hy; omega)
    have := ih hx' hy' h1
    have h3 := congrArg Char.toNat (List.singleton_inj.mp h2)
    rw [digitChar_toNat _ (Nat.mod_lt _ (by decide)), digitChar_toNat _ (Nat.mod_lt _ (by decide))] at h3
    omega

/-- Fixed-width digit strings compare as their numbers. -/
theorem strLt_fixedDigits {k x y : Nat} (hx : x < 10 ^ k) (hy : y < 10 ^ k) :
    strLt (fixedDigits k x) (fixedDigits k y) = decide (x < y) := by
  induction k generalizing x y with
  | zero => simp at hx hy; subst hx hy; rfl
  | succ k ih =>
    have hx' : x / 10 < 10 ^ k := Nat.div_lt_of_lt_mul (by rw [Nat.pow_succ] at hx; omega)
    have hy' : y / 10 < 10 ^ k := Nat.div_lt_of_lt_mul (by rw [Nat.pow_succ] at hy; omega)
    have heq : fixedDigits k (x / 10) = fixedDigits k (y / 10) ↔ x / 10 = y / 10 :=
      ⟨fixedDigits_inj hx' hy', fun h => h ▸ rfl⟩
    rw [fixedDigits, fixedDigits, strLt_append_of_length_eq _ _ (by simp [fixedDigits_length]), ih hx' hy']
    simp only [strLt_cons, strLt_irrefl, digitChar_toNat _ (Nat.mod_lt _ (by decide : 10 > 0)), heq]
    rw [Bool.eq_iff_iff]
    simp only [Bool.or_eq_true, Bool.and_eq_true, decide_eq_true_eq, Bool.or_false, Bool.and_false]
    omega

theorem toDigitsCore_fuel {a b n : Nat} (ha : n < a) (hb : n < b) (ds : List Char) :
    Nat.toDigitsCore 10 a n ds = Nat.toDigitsCore 10 b n ds := by
  induction a generalizing b n ds with
  | zero => omega
  | succ a ih =>
    obtain ⟨g, rfl⟩ : ∃ g, b = g + 1 := ⟨b - 1, by omega⟩
    simp only [Nat.toDigitsCore]
    split
    · rfl
    · exact ih (by omega) (by omega) _

theorem toDigits_of_lt_ten {n : Nat} (h : n < 10) : Nat.toDigits 10 n = [Nat.digitChar n] := by
  simp [Nat.toDigits, Nat.toDigitsCore, Nat.div_eq_of_lt h, Nat.mod_eq_of_lt h]

theorem toDigits_of_ge_ten {n : Nat} (h : 10 ≤ n) :
    Nat.toDigits 10 n = Nat.toDigits 10 (n / 10) ++ [Nat.digitChar (n % 10)] := by
  rw [Nat.toDigits, Nat.toDigitsCore, if_neg (by omega), toDigitsCore_append, Nat.toDigits,
    toDigitsCore_fuel (b := n / 10 + 1) (by omega) (by omega)]

/-- `std::to_string` of a number with `k + 1` digits is its `k + 1`-digit rendering. -/
theorem toDigits_eq_fixedDigits (k : Nat) {n : Nat} (h1 : 10 ^ k ≤ n) (h2 : n < 10 ^ (k + 1)) :
    Nat.toDigits 10 n = fixedDigits (k + 1) n := by
  induction k generalizing n with
  | zero =>
    simp only [Nat.pow_zero, Nat.zero_add, Nat.pow_one] at h1 h2
    rw [toDigits_of_lt_ten h2, fixedDigits, fixedDigits, Nat.mod_eq_of_lt h2]; rfl
  | succ k ih =>
    have h10 : 10 ≤ n := by
      have : 10 ^ 1 ≤ 10 ^ (k + 1) := Nat.pow_le_pow_right (by decide) (by omega)
      simp at this; omega
    rw [toDigits_of_ge_ten h10, ih ((Nat.le_div_iff_mul_le (by decide)).mpr (by rw [← Nat.pow_succ]; exact h1))
      (Nat.div_lt_of_lt_mul (by rw [Nat.pow_succ] at h2; omega))]
    rfl

theorem zeroPad2_eq {n : Nat} (h : n < 100) : zeroPad2 n = fixedDigits 2 n := by
  unfold zeroPad2
  by_cases h10 : n < 10
  · rw [toDigits_of_lt_ten h10]
    simp [fixedDigits, Nat.div_eq_of_lt h10, Nat.mod_eq_of_lt h10]; rfl
  · rw [toDigits_eq_fixedDigits 1 (by omega) (by omega)]
    simp only [fixedDigits_length, Nat.sub_self, List.replicate, List.nil_append]

/-- `strftime`'s text for a broken-down time with a four-digit year. -/
theorem strftimeStamp_eq {tm : Tm} {t : Nat} (h : Breakdown tm t) (hy : tm.year < 10000) :
    strftimeStamp tm = fixedDigits 8 tm.dateKey ++ '_' :: fixedDigits 6 tm.timeKey := by
  have hd := daysInMonth_le tm.year tm.tmMon
  have := h.mday_le; have := h.mon; have := h.hour; have := h.minute; have := h.second; have := h.year
  have hdk : tm.dateKey = (tm.year * 100 + (tm.tmMon + 1)) * 100 + tm.tmMday := by
    unfold Tm.dateKey; omega
  have htk : tm.timeKey = (tm.tmHour * 100 + tm.tmMin) * 100 + tm.tmSec := by unfold Tm.timeKey; omega
  unfold strftimeStamp
  rw [h.year_eq, show yearDigits tm.year = Nat.toDigits 10 tm.year from rfl,
    hdk, htk, toDigits_eq_fixedDigits 3 (show 1000 ≤ _ by omega) (show _ < 10000 by omega),
    zeroPad2_eq (by omega), zeroPad2_eq (by omega), zeroPad2_eq (by omega), zeroPad2_eq (by omega),
    zeroPad2_eq (by omega), fixedDigits_append_two (3 + 1) tm.year (tm.tmMon + 1) (by omega),
    fixedDigits_append_two (3 + 1 + 2) _ tm.tmMday (by omega)]
  simp only [List.append_assoc, List.singleton_append, List.cons_append]
  rw [← List.append_assoc (fixedDigits 2 tm.tmHour), fixedDigits_append_two 2 tm.tmHour tm.tmMin (by omega),
    fixedDigits_append_two (2 + 2) _ tm.tmSec (by omega)]
  rfl

/-- Through 9999-12-31 23:59:59 the year has four digits. -/
theorem gmtime_year_lt {t : Nat} (ht : t ≤ 253402300799) : (gmtime t).year < 10000 :=
  Nat.lt_of_not_le fun hc => by
    have := daysBefore_mono (by decide) hc
    have h10k : daysBefore 10000 = 2932897 := by decide
    have := (gmtime_breakdown t).day
    omega

/-- What `make_timestamp_utc` prints once the clock has given the `time_t` value `t`. -/
def timestampAt (t : Int) : List Char :=
  let buf := strftimeStamp (gmtime t)
  if buf.length < 32 then buf else ['0', '0', '0', '0', '0', '0', '0', '0', '_', '0', '0', '0', '0', '0', '0']

theorem makeTimestampUtc_eq_timestampAt (tvSec tvNsec : Nat) :
    makeTimestampUtc tvSec tvNsec = timestampAt (toTimeT (systemClockNow tvSec tvNsec)) := rfl

theorem timestampAt_eq {t : Nat} (ht : t ≤ 253402300799) :
    timestampAt t = fixedDigits 8 (gmtime t).dateKey ++ '_' :: fixedDigits 6 (gmtime t).timeKey := by
  unfold timestampAt
  rw [strftimeStamp_eq (gmtime_breakdown t) (gmtime_year_lt ht), if_pos (by simp [fixedDigits_length])]

theorem timestampAt_shape {t : Nat} (ht : t ≤ 253402300799) : IsStampShape (timestampAt t) := by
  rw [timestampAt_eq ht]
  exact ⟨_, _, fixedDigits_length _ _, fixedDigits_all_isDigit _ _, fixedDigits_length _ _,
    fixedDigits_all_isDigit _ _, rfl⟩

theorem gmtime_zero : gmtime 0 = ⟨0, 0, 0, 1, 0, 70⟩ := by
  rw [show (0 : Int) = ((0 : Nat) : Int) from rfl, gmtime_natCast]
  dsimp only
  rw [yearOfDay, if_pos (by decide)]
  dsimp only
  rw [monthOfDay, if_neg (by decide)]
  rfl

theorem timestampAt_zero : timestampAt 0 = "19700101_000000".toList := by
  rw [timestampAt, gmtime_zero]
  rfl

/-- The Epoch's stamp, the one every rotation at clock reading 0 embeds. -/
theorem makeTimestampUtc_zero : makeTimestampUtc 0 0 = "19700101_000000".toList := by
  rw [makeTimestampUtc_eq_timestampAt, show toTimeT (systemClockNow 0 0) = 0 by decide, timestampAt_zero]

theorem strLt_stamp {d1 d2 t1 t2 : Nat} (hd1 : d1 < 10 ^ 8) (hd2 : d2 < 10 ^ 8) (ht1 : t1 < 10 ^ 6)
    (ht2 : t2 < 10 ^ 6) :
    strLt (fixedDigits 8 d1 ++ '_' :: fixedDigits 6 t1) (fixedDigits 8 d2 ++ '_' :: fixedDigits 6 t2) =
      (decide (d1 < d2) || decide (d1 = d2) && decide (t1 < t2)) := by
  rw [strLt_append_of_length_eq _ _ (by simp [fixedDigits_length]), strLt_fixedDigits hd1 hd2, strLt_cons,
    strLt_fixedDigits ht1 ht2]
  have : fixedDigits 8 d1 = fixedDigits 8 d2 ↔ d1 = d2 := ⟨fixedDigits_inj hd1 hd2, fun h => h ▸ rfl⟩
  simp [this]

theorem Breakdown.keys_lt {tm : Tm} {t : Nat} (h : Breakdown tm t) (hy : tm.year < 10000) :
    tm.dateKey < 10 ^ 8 ∧ tm.timeKey < 10 ^ 6 := by
  have hd := daysInMonth_le tm.year tm.tmMon
  have := h.mday_le; have := h.mon; have := h.hour; have := h.minute; have := h.second
  unfold Tm.dateKey Tm.timeKey
  exact ⟨show _ < 100000000 by omega, show _ < 1000000 by omega⟩

/-- A later second gives a later stamp. -/
theorem timestampAt_strictMono {t1 t2 : Nat} (ht : t1 < t2) (ht2 : t2 ≤ 253402300799) :
    strLt (timestampAt t1) (timestampAt t2) = true := by
  have hb1 := gmtime_breakdown t1
  have hb2 := gmtime_breakdown t2
  obtain ⟨hd1, hk1⟩ := hb1.keys_lt (gmtime_year_lt (by omega))
  obtain ⟨hd2, hk2⟩ := hb2.keys_lt (gmtime_year_lt ht2)
  rw [timestampAt_eq (by omega), timestampAt_eq ht2, strLt_stamp hd1 hd2 hk1 hk2]
  rcases hb1.key_lt hb2 ht with h | ⟨h1, h2⟩ <;> simp [*]

/-- A `clock_gettime` reading whose count of nanoseconds fits the signed 64 bits of
`system_clock`: up to 2262-04-11T23:47:16.854775807Z. -/
def BeforeWrap (tvSec tvNsec : Nat) : Prop := tvNsec < 1000000000 ∧ tvSec * 1000000000 + tvNsec < 2 ^ 63

instance (tvSec tvNsec : Nat) : Decidable (BeforeWrap tvSec tvNsec) := inferInstanceAs (Decidable (_ ∧ _))

theorem BeforeWrap.le {tvSec tvNsec : Nat} (h : BeforeWrap tvSec tvNsec) : tvSec ≤ 9223372036 := by
  have : (2 : Nat) ^ 63 = 9223372036854775808 := by norm_num
  unfold BeforeWrap at h
  omega

/-- Before the wrap, `to_time_t` gives the clock's second. -/
theorem toTimeT_systemClockNow {tvSec tvNsec : Nat} (h : BeforeWrap tvSec tvNsec) :
    toTimeT (systemClockNow tvSec tvNsec) = tvSec := by
  have h63 : (2 : Nat) ^ 63 = 9223372036854775808 := by norm_num
  have h64 : (2 : Nat) ^ 64 = 18446744073709551616 := by norm_num
  obtain ⟨hn, hc⟩ := h
  have hnow : systemClockNow tvSec tvNsec = ((tvSec * 1000000000 + tvNsec : Nat) : Int) := by
    unfold systemClockNow BitVec.toInt
    rw [BitVec.toNat_ofNat, Nat.mod_eq_of_lt (by omega), if_pos (by omega)]
  rw [toTimeT, hnow, show (1000000000 : Int) = ((1000000000 : Nat) : Int) from rfl, ← Int.ofNat_tdiv]
  congr 1
  omega

theorem makeTimestampUtc_of_beforeWrap {tvSec tvNsec : Nat} (h : BeforeWrap tvSec tvNsec) :
    makeTimestampUtc tvSec tvNsec = timestampAt tvSec := by
  rw [makeTimestampUtc_eq_timestampAt, toTimeT_systemClockNow h]

theorem makeTimestampUtc_shape {tvSec tvNsec : Nat} (h : BeforeWrap tvSec tvNsec) :
    IsStampShape (makeTimestampUtc tvSec tvNsec) := by
  rw [makeTimestampUtc_of_beforeWrap h]
  exact timestampAt_shape (by have := h.le; omega)

theorem makeTimestampUtc_strictMono {s1 n1 s2 n2 : Nat} (h1 : BeforeWrap s1 n1) (h2 : BeforeWrap s2 n2)
    (hlt : s1 < s2) : strLt (makeTimestampUtc s1 n1) (makeTimestampUtc s2 n2) = true := by
  rw [makeTimestampUtc_of_beforeWrap h1, makeTimestampUtc_of_beforeWrap h2]
  exact timestampAt_strictMono hlt (by have := h2.le; omega)

theorem makeTimestampUtc_order :
    (∀ tvSec tvNsec, BeforeWrap tvSec tvNsec → IsStampShape (makeTimestampUtc tvSec tvNsec) ∧
      ∀ base, parseRotationSuffix (base ++ '.' :: makeTimestampUtc tvSec tvNsec) base =
        some (makeTimestampUtc tvSec tvNsec, 0)) ∧
    ∀ s1 n1 s2 n2, BeforeWrap s1 n1 → BeforeWrap s2 n2 → s1 ≤ s2 →
      (strLt (makeTimestampUtc s1 n1) (makeTimestampUtc s2 n2) = true ∨
        makeTimestampUtc s1 n1 = makeTimestampUtc s2 n2) ∧
      (makeTimestampUtc s1 n1 = makeTimestampUtc s2 n2 ↔ s1 = s2) := by
  refine ⟨fun t n ht => ?_, fun s1 n1 s2 n2 h1 h2 h12 => ?_⟩
  · have hs := makeTimestampUtc_shape ht
    exact ⟨hs, fun base => parseRotationSuffix_eq_some.mpr ⟨hs, .inl ⟨rfl, rfl⟩⟩⟩
  · rcases Nat.lt_or_eq_of_le h12 with h | rfl
    · have := makeTimestampUtc_strictMono h1 h2 h
      refine ⟨.inl this, ⟨fun he => ?_, fun he => absurd he (Nat.ne_of_lt h)⟩⟩
      rw [he, strLt_irrefl] at this
      cases this
    · rw [makeTimestampUtc_of_beforeWrap h1, makeTimestampUtc_of_beforeWrap h2]
      exact ⟨.inr rfl, ⟨fun _ => rfl, fun _ => rfl⟩⟩

/-- The first second of the range and the last before the wrap, at its last nanosecond: both
stamps have the shape, and the first sorts before the last. -/
theorem makeTimestampUtc_order_range :
    BeforeWrap 9223372036 854775807 ∧ IsStampShape (makeTimestampUtc 9223372036 854775807) ∧
      strLt (makeTimestampUtc 0 0) (makeTimestampUtc 9223372036 854775807) = true := by
  have hw : BeforeWrap 9223372036 854775807 := by decide
  have h := makeTimestampUtc_order.2 0 0 9223372036 854775807 (by decide) hw (Nat.zero_le _)
  refine ⟨hw, (makeTimestampUtc_order.1 _ _ hw).1, h.1.resolve_right fun he => ?_⟩
  cases h.2.mp he

/-- The clock wraps: at 9223372036 s, in 2262, the stamp is that second's; at 18446744074 s, in
2554, libstdc++'s count of nanoseconds has wrapped past 2^64 to 290448384, a `time_t` of 0, and
the stamp is the Epoch's, which sorts before the earlier one. -/
theorem makeTimestampUtc_wraps :
    (9223372036 : Nat) ≤ 18446744074 ∧ (18446744074 : Nat) ≤ 253402300799 ∧
      makeTimestampUtc 18446744074 0 = "19700101_000000".toList ∧
      ¬(strLt (makeTimestampUtc 9223372036 0) (makeTimestampUtc 18446744074 0) = true ∨
        makeTimestampUtc 9223372036 0 = makeTimestampUtc 18446744074 0) := by
  have hlate : makeTimestampUtc 18446744074 0 = timestampAt 0 := by
    rw [makeTimestampUtc_eq_timestampAt, show toTimeT (systemClockNow 18446744074 0) = 0 by decide]
  have hlt : strLt (makeTimestampUtc 18446744074 0) (makeTimestampUtc 9223372036 0) = true := by
    rw [hlate, makeTimestampUtc_of_beforeWrap (by decide)]
    exact timestampAt_strictMono (show (0 : Nat) < 9223372036 by decide) (by decide)
  refine ⟨by decide, by decide, hlate.trans timestampAt_zero, fun h => ?_⟩
  rcases h with h | h
  · rw [strLt_asymm hlt] at h; cases h
  · rw [h, strLt_irrefl] at hlt; cases hlt

end SimLogger
