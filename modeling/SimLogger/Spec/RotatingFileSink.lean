import SimLogger.Spec.FileSink
import SimLogger.Spec.Suffix
import SimLogger.Spec.Timestamp

/-! `RotatingFileSink` (`rotating_file_sink.cpp`): the size check of `write`, the rotation
(flush, close, name probe, rename, reopen, count, prune) and the retention prune. -/

namespace SimLogger

/-- `std::string::operator<`: lexicographic by unsigned byte, a proper prefix first. -/
def strLt : List Char → List Char → Bool
  | [], [] => false
  | [], _ :: _ => true
  | _ :: _, [] => false
  | a :: as, b :: bs => if a.toNat < b.toNat then true else if a = b then strLt as bs else false

/-- A rotated file found by the prune, with its parsed key. -/
structure Candidate where
  path : List Char
  ts : List Char
  seq : Nat
  deriving Repr, DecidableEq

/-- The comparator handed to `std::sort`. -/
def Candidate.before (a b : Candidate) : Bool :=
  if a.ts ≠ b.ts then strLt a.ts b.ts else a.seq < b.seq

/-- `std::sort` with `Candidate.before`: some permutation in which no element comes before
an earlier one. The order of equal keys is unspecified, so the model takes any such sort. -/
structure Sorter where
  sort : List Candidate → List Candidate
  perm : ∀ l, (sort l).Perm l
  sorted : ∀ l, (sort l).Pairwise fun a b => !b.before a

/-- `fs::exists(p, ec)`: `false` when the status query fails. -/
def fileExists (io : Io) (d : Dir) (n : List Char) : Bool := !io.statFails n && (d n).isSome

/-- The loop of `prune_old_rotations_locked` over the directory: regular files whose names
parse, in listing order. A failed status query sets `ec`, and the loop breaks at the next
entry. -/
def collectCandidates (d : Dir) (statFails : List Char → Bool) (baseFilename : List Char) :
    List (List Char) → List Candidate
  | [] => []
  | fn :: rest =>
    if statFails fn then []
    else if d.isRegular fn then
      match parseRotationSuffix fn baseFilename with
      | some (ts, seq) => ⟨fn, ts, seq⟩ :: collectCandidates d statFails baseFilename rest
      | none => collectCandidates d statFails baseFilename rest
    else collectCandidates d statFails baseFilename rest

/-- `fs::remove(path, rm_ec)` for each candidate in turn; failures are ignored. -/
def removeAll (removeOk : List Char → Bool) (d : Dir) : List Candidate → Dir
  | [] => d
  | c :: cs => removeAll removeOk (if removeOk c.path then d.set c.path none else d) cs

/-- The name-selection loop of `rotate_locked`: `rotated_name` is set to each `.seq` name in
turn until one is free. -/
def probeLoop (taken : List Char → Bool) (rotatedBase : List Char) :
    List Nat → List Char → List Char
  | [], name => name
  | seq :: rest, _ =>
    let name := seqName rotatedBase seq
    if taken name then probeLoop taken rotatedBase rest name else name

/-- The name `rotate_locked` renames to, or `none` when it throws for want of one. -/
def uniqueName (taken : List Char → Bool) (rotatedBase : List Char) : Option (List Char) :=
  if taken rotatedBase then
    let name := probeLoop taken rotatedBase (List.range' 1 9999) rotatedBase
    if taken name then none else some name
  else some rotatedBase

def renameOrThrow (src dst : List Char) (io : Io) : M Unit := do
  let s ← get
  match if io.renameOk then s.dir.rename src dst else none with
  | some d => set { s with dir := d }
  | none =>
    throw (.runtimeError ("RotatingFileSink rename failed: \x27" ++ String.mk src ++ "\x27 -> \x27" ++
      String.mk dst ++ "\x27: "))

section

variable (cfg : Config) (srt : Sorter)

/-- `prune_old_rotations_locked`: it is `noexcept` and touches only the directory. -/
def pruneOldRotationsLocked (io : Io) (d : Dir) : Dir :=
  if cfg.maxRotatedFiles = 0 then d else
  match io.scan with
  | none => d
  | some listing =>
    let candidates := collectCandidates d io.statFails cfg.basePath listing
    if candidates.length ≤ cfg.maxRotatedFiles then d
    else
      let toDelete := candidates.length - cfg.maxRotatedFiles
      removeAll io.removeOk d ((srt.sort candidates).take toDelete)

def rotateLocked (io : Io) : M Unit := do
  flushLocked cfg io
  closeLockedNoexcept
  let rotatedBase := cfg.basePath ++ '.' :: makeTimestampUtc io.now io.nsec
  let some rotatedName := uniqueName (fileExists io (← get).dir) rotatedBase
    | throw (.runtimeError "RotatingFileSink: unable to find unique rotated filename")
  renameOrThrow cfg.basePath rotatedName io
  reopenLocked cfg.basePath io
  modify fun s => { s with rotationsPerformed := s.rotationsPerformed + 1 }
  modify fun s => { s with dir := pruneOldRotationsLocked cfg srt io s.dir }

/-- `RotatingFileSink::write`, on the line the formatter rendered. -/
def write (line : List Char) (io : Io) : M Unit := do
  let projected := (← get).bytesWritten + line.length + if needsNewline line then 1 else 0
  if projected ≥ cfg.maxBytes then rotateLocked cfg srt io
  writeLineLocked line io

/-- The public calls of a constructed `RotatingFileSink`: `write` and the inherited `flush`. -/
inductive Call where
  | write (line : List Char)
  | flush

def call : Call → Io → M Unit
  | .write line, io => write cfg srt line io
  | .flush, io => flush cfg io

/-- `RotatingFileSink::RotatingFileSink`: the `FileSink` base is built first; when the body
throws, `~FileSink` closes the handle. -/
def rotatingFileSinkInit (io : Io) : M Unit := do
  fileSinkInit cfg.basePath io
  tryCatch
    (do
      if cfg.basePath = [] then throw (.invalidArgument "RotatingFileSink path must not be empty")
      if cfg.maxBytes = 0 then throw (.invalidArgument "RotatingFileSink max_bytes must be > 0"))
    fun e => do closeLockedNoexcept; throw e

end

end SimLogger
