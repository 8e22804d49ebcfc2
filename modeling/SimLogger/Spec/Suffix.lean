/-! Rotated-file names: how `rotate_locked` builds them and how `parse_rotation_suffix`
(`rotating_file_sink.cpp`) reads them back. -/

namespace SimLogger

/-- `fs::path(p).filename()` on POSIX: what follows the last `/`. -/
def fileName (p : List Char) : List Char := p.foldl (fun acc c => if c = '/' then [] else acc ++ [c]) []

/-- `base + "." + std::to_string(seq)`. -/
def seqName (base : List Char) (seq : Nat) : List Char := base ++ '.' :: Nat.toDigits 10 seq

/-- One step of the `std::uint32_t` accumulator `acc * 10 + (c - '0')`. -/
def decimalAcc (acc : Nat) (c : Char) : Nat := (acc * 10 + (c.toNat - '0'.toNat)) % 4294967296

/-- `parse_rotation_suffix(filename, base_filename, &ts, &seq)`: `some (ts, seq)` when it returns
true with those outputs. -/
def parseRotationSuffix (filename baseFilename : List Char) : Option (List Char × Nat) :=
  let pre := baseFilename ++ ['.']
  if filename.take pre.length ≠ pre then none else
  let rest := filename.drop pre.length
  if h : rest.length < 15 then none else
  let ts := rest.take 15
  if !(ts.take 8).all Char.isDigit then none
  else if rest[8] ≠ '_' then none
  else if !(ts.drop 9).all Char.isDigit then none
  else if h' : 15 < rest.length then
    if rest[15] ≠ '.' then none else
    let seqStr := rest.drop 16
    if seqStr = [] then none
    else if !seqStr.all Char.isDigit then none
    else some (ts, seqStr.foldl decimalAcc 0)
  else some (ts, 0)

end SimLogger
