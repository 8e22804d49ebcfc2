/-! Severity levels (`level.hpp`) and their ASCII, case-insensitive parsing
(`level.cpp`). A `std::string_view` is the list of its `char`s. -/

namespace SimLogger

/-- `enum class Level`, ordered from least to most severe. -/
inductive Level where
  | debug
  | info
  | warn
  | error
  | fatal
  deriving Repr, DecidableEq

def Level.rank : Level → Nat
  | .debug => 0
  | .info => 1
  | .warn => 2
  | .error => 3
  | .fatal => 4

/-- `to_string(Level)`: the canonical upper-case name. -/
def Level.toString : Level → List Char
  | .debug => ['D', 'E', 'B', 'U', 'G']
  | .info => ['I', 'N', 'F', 'O']
  | .warn => ['W', 'A', 'R', 'N']
  | .error => ['E', 'R', 'R', 'O', 'R']
  | .fatal => ['F', 'A', 'T', 'A', 'L']

def isAtLeast (lvl threshold : Level) : Bool := threshold.rank ≤ lvl.rank

def toUpperAscii (c : Char) : Char :=
  if 'a'.toNat ≤ c.toNat ∧ c.toNat ≤ 'z'.toNat then Char.ofNat (c.toNat - 'a'.toNat + 'A'.toNat)
  else c

/-- `iequals_ascii`: equal sizes, then every position equal after `to_upper_ascii`. -/
def iequalsAscii (a b : List Char) : Bool :=
  a.length = b.length && (a.zip b).all fun p => toUpperAscii p.1 = toUpperAscii p.2

def levelFromString (s : List Char) : Option Level :=
  if iequalsAscii s ['D', 'E', 'B', 'U', 'G'] then some .debug
  else if iequalsAscii s ['I', 'N', 'F', 'O'] then some .info
  else if iequalsAscii s ['W', 'A', 'R', 'N'] || iequalsAscii s ['W', 'A', 'R', 'N', 'I', 'N', 'G'] then
    some .warn
  else if iequalsAscii s ['E', 'R', 'R', 'O', 'R'] then some .error
  else if iequalsAscii s ['F', 'A', 'T', 'A', 'L'] then some .fatal
  else none

/-- `level_from_int`: the Trick-style numeric levels. -/
def levelFromInt (value : Int) : Option Level :=
  match value with
  | 0 | 1 => some .info
  | 2 => some .warn
  | 3 => some .error
  | 10 => some .debug
  | _ => none

end SimLogger
