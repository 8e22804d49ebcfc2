/-! `make_timestamp_utc` (`rotating_file_sink.cpp`) and the library calls it makes: libstdc++'s
`system_clock::now()` and `to_time_t`, then `gmtime_r`, the UTC breakdown of the proleptic
Gregorian calendar (POSIX, "Seconds Since the Epoch"), and `strftime` with the format
`%Y%m%d_%H%M%S`. The clock reading is the `tv_sec` and `tv_nsec` of
`clock_gettime(CLOCK_REALTIME)`, at or after the Epoch. -/

namespace SimLogger

def isLeap (y : Nat) : Bool := y % 4 = 0 && (y % 100 ≠ 0 || y % 400 = 0)

def daysInYear (y : Nat) : Nat := if isLeap y then 366 else 365

/-- Days in month `m` (`tm_mon`, from 0) of year `y`. -/
def daysInMonth (y m : Nat) : Nat :=
  match m with
  | 1 => if isLeap y then 29 else 28
  | 3 | 5 | 8 | 10 => 30
  | _ => 31

theorem daysInYear_pos (y : Nat) : 0 < daysInYear y := by
  unfold daysInYear; split <;> omega

/-- `std::chrono::system_clock::now()` in libstdc++: `seconds(tv_sec) + nanoseconds(tv_nsec)`, a
signed 64-bit count of nanoseconds. Nothing checks the multiplication by 10^9, which wraps modulo
2^64 past `2^63 - 1`, on 2262-04-11. -/
def systemClockNow (tvSec tvNsec : Nat) : Int := (BitVec.ofNat 64 (tvSec * 1000000000 + tvNsec)).toInt

/-- `system_clock::to_time_t`: `duration_cast<seconds>`, which truncates toward zero. -/
def toTimeT (ns : Int) : Int := ns.tdiv 1000000000

/-- The fields of `std::tm` that `strftime` reads here. -/
structure Tm where
  tmSec : Nat
  tmMin : Nat
  tmHour : Nat
  tmMday : Nat
  tmMon : Nat
  tmYear : Int
  deriving Repr, DecidableEq

/-- Day `d` counted from 1 January of year `y`: its year and its day within that year. -/
def yearOfDay (y d : Nat) : Nat × Nat :=
  if d < daysInYear y then (y, d) else yearOfDay (y + 1) (d - daysInYear y)
termination_by d
decreasing_by have := daysInYear_pos y; omega

/-- Day `d` counted from the first of month `m` of year `y`: its month and its day within it.
December takes what is left. -/
def monthOfDay (y m d : Nat) : Nat × Nat :=
  if m < 11 ∧ daysInMonth y m ≤ d then monthOfDay y (m + 1) (d - daysInMonth y m) else (m, d)
termination_by 11 - m

/-- Day `d` counted back from 1 January of year `y + 1`, the last day of year `y` being 1: its
year and its day within that year. -/
def yearBefore (y d : Nat) : Nat × Nat :=
  if d ≤ daysInYear y then (y, daysInYear y - d) else yearBefore (y - 1) (d - daysInYear y)
termination_by d
decreasing_by have := daysInYear_pos y; omega

/-- `gmtime_r` on `t` seconds from the Epoch: day `t / 86400`, which rounds down, at second
`t % 86400` of it. -/
def gmtime (t : Int) : Tm :=
  let secs := (t % 86400).toNat
  let (year, yday) := match t / 86400 with
    | .ofNat d => yearOfDay 1970 d
    | .negSucc d => yearBefore 1969 (d + 1)
  let (mon, mday) := monthOfDay year 0 yday
  { tmSec := secs % 60, tmMin := secs / 60 % 60, tmHour := secs / 3600, tmMday := mday + 1,
    tmMon := mon, tmYear := (year : Int) - 1900 }

/-- A `printf`-style `%02d`. -/
def zeroPad2 (n : Nat) : List Char :=
  let ds := Nat.toDigits 10 n
  List.replicate (2 - ds.length) '0' ++ ds

/-- `%Y`: the year in decimal, signed. -/
def yearDigits : Int → List Char
  | .ofNat y => Nat.toDigits 10 y
  | .negSucc y => '-' :: Nat.toDigits 10 (y + 1)

/-- `strftime(buf, …, "%Y%m%d_%H%M%S", tm)`, before the size check. -/
def strftimeStamp (tm : Tm) : List Char :=
  yearDigits (tm.tmYear + 1900) ++ zeroPad2 (tm.tmMon + 1) ++ zeroPad2 tm.tmMday ++ ['_'] ++
    zeroPad2 tm.tmHour ++ zeroPad2 tm.tmMin ++ zeroPad2 tm.tmSec

/-- `make_timestamp_utc` at the clock reading `tvSec`, `tvNsec`; `strftime` returns 0 when the
text and its terminator do not fit in the 32-byte buffer. -/
def makeTimestampUtc (tvSec tvNsec : Nat) : List Char :=
  let buf := strftimeStamp (gmtime (toTimeT (systemClockNow tvSec tvNsec)))
  if buf.length < 32 then buf else ['0', '0', '0', '0', '0', '0', '0', '0', '_', '0', '0', '0', '0', '0', '0']

end SimLogger
