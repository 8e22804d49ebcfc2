import SimLogger.Spec.Dir

/-! `FileSink` (`file_sink.cpp`): the append-only sink and the `_locked` helpers that
`RotatingFileSink` composes. POSIX branch; `fileno` and `fsync` fail together. The handle is a
glibc `FILE*`: `fwrite` collects bytes in its buffer and hands them to `write(2)` when the buffer
overflows, at `fflush` and at `fclose`; when such a `write(2)` fails, glibc drops what it had not
written. -/

namespace SimLogger

/-- `file_size_or_zero`: the size of the file the handle is open on, `0` when seeking fails. -/
def fileSizeOrZero (d : Dir) (f : Option (List Char)) (io : Io) : Nat :=
  match f with
  | none => 0
  | some n => if io.fseekOk then d.size n else 0

/-- `write_all_or_throw`. A zero-size `fwrite` returns 0 at once; any other hands the buffer
followed by `data` on as `w` says, and a short count throws. -/
def writeAllOrThrow (f : Option (List Char)) (data : List Char) (w : Fwrite) : M Unit := do
  let some n := f | throw (.runtimeError "FileSink file handle is null")
  if data = [] then return
  let s ← get
  let held := s.buf ++ data
  match w with
  | .buffers k => set { s with dir := s.dir.append n (held.take k), buf := held.drop k }
  | .fails k =>
    set { s with dir := s.dir.append n (held.take k), buf := [] }
    throw (.runtimeError "FileSink write failed: ")

/-- `fflush_or_throw`. With nothing buffered, `fflush` makes no `write(2)` and returns 0. -/
def fflushOrThrow (f : Option (List Char)) (w : Flush) : M Unit := do
  let some n := f | throw (.runtimeError "FileSink file handle is null")
  let s ← get
  if s.buf = [] then return
  match w with
  | .done => set { s with dir := s.dir.append n s.buf, buf := [] }
  | .fails k =>
    set { s with dir := s.dir.append n (s.buf.take k), buf := [] }
    throw (.runtimeError "FileSink fflush failed: ")

def fsyncOrThrow (ok : Bool) : M Unit := do
  if !ok then throw (.runtimeError "FileSink fsync failed: ")

/-- `line.empty() || line.back() != '\n'`. -/
def needsNewline (line : List Char) : Bool := line.getLast? != some '\n'

/-- The bytes a complete write of `line` hands to the stream. -/
def normLine (line : List Char) : List Char := if needsNewline line then line ++ ['\n'] else line

def writeLineLocked (line : List Char) (io : Io) : M Unit := do
  writeAllOrThrow (← get).file line io.payload
  modify fun s => { s with bytesWritten := s.bytesWritten + line.length }
  if needsNewline line then
    writeAllOrThrow (← get).file ['\n'] io.newline
    modify fun s => { s with bytesWritten := s.bytesWritten + 1 }

/-- `close_locked_noexcept`. `fclose` hands what is buffered to `write(2)` before it closes the
file; what it returns is ignored. -/
def closeLockedNoexcept : M Unit :=
  modify fun s =>
    match s.file with
    | some n => { s with dir := s.dir.append n s.buf, file := none, buf := [], bytesWritten := 0 }
    | none => { s with bytesWritten := 0 }

def openLockedOrThrow (io : Io) : M Unit := do
  let s ← get
  match if io.fopenOk then s.dir.openAppend s.path else none with
  | none =>
    set { s with file := none }
    throw (.runtimeError ("FileSink fopen failed for \x27" ++ String.mk s.path ++ "\x27: "))
  | some d =>
    set { s with dir := d, file := some s.path, buf := [], bytesWritten := fileSizeOrZero d (some s.path) io }

def reopenLocked (newPath : List Char) (io : Io) : M Unit := do
  closeLockedNoexcept
  modify fun s => { s with path := newPath }
  openLockedOrThrow io

/-- `FileSink::FileSink`: `path_` is set, checked, and the file opened. -/
def fileSinkInit (path : List Char) (io : Io) : M Unit := do
  modify fun s => { s with path := path }
  if path = [] then throw (.invalidArgument "FileSink path must not be empty")
  openLockedOrThrow io

section

variable (cfg : Config)

def flushLocked (io : Io) : M Unit := do
  fflushOrThrow (← get).file io.fflush
  if cfg.durableFlush then fsyncOrThrow io.fsyncOk

/-- `FileSink::flush`. -/
def flush (io : Io) : M Unit := flushLocked cfg io

end

end SimLogger
