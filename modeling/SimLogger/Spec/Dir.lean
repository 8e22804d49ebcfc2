/-! The state the sinks act on. Every path the sink builds is `base_path_` followed by a suffix
without `/`, so all of them lie in the directory that holds the base file: the model keys that
directory by file name, and `basePath` is the base file's name in it (`fileName_append` in
`Proofs.Suffix` is why this loses nothing). File contents are lists of bytes (`char`s), as the
kernel holds them: bytes still in the stdio buffer of the sink's `FILE*` are kept apart, in
`Sink.buf`, and reach the file only when glibc hands them to `write(2)`.

The operating system's answers to the library calls made during one public call form an `Io`
record; a C++ exception that leaves a call is an `EStateM` error, which keeps the state the
call had reached when it threw. -/

namespace SimLogger

/-- A C++ exception as it leaves the sink, with its `what()` text. -/
inductive Exn where
  | runtimeError (what : String)
  | invalidArgument (what : String)
  deriving Repr, DecidableEq

/-- A directory entry: a regular file and its bytes, or an entry that `fopen(.., "a")` refuses,
such as a directory or a symbolic link that loops. Devices, FIFOs and symbolic links that
resolve are not modelled. -/
inductive Node where
  | regular (content : List Char)
  | other
  deriving Repr, DecidableEq

/-- The directory that holds the base file, by file name. Each name is an entry of its own: no two
names are links to one file. -/
def Dir := List Char → Option Node

namespace Dir

def set (d : Dir) (n : List Char) (v : Option Node) : Dir := fun m => if m = n then v else d m

@[simp] theorem set_apply (d : Dir) (n m : List Char) (v : Option Node) :
    d.set n v m = if m = n then v else d m := rfl

/-- Bytes appended through a handle open on `n`. -/
def append (d : Dir) (n bytes : List Char) : Dir :=
  match d n with
  | some (.regular c) => d.set n (some (.regular (c ++ bytes)))
  | _ => d

/-- `std::fopen(n, "a")`: opens a regular file, creating it empty when absent; `none` when the
name is taken by something else. -/
def openAppend (d : Dir) (n : List Char) : Option Dir :=
  match d n with
  | none => some (d.set n (some (.regular [])))
  | some (.regular _) => some d
  | some .other => none

/-- The size `fseek`/`ftell` report for `n`. -/
def size (d : Dir) (n : List Char) : Nat :=
  match d n with
  | some (.regular c) => c.length
  | _ => 0

/-- `std::rename(src, dst)` when the call succeeds: `dst` is replaced. -/
def rename (d : Dir) (src dst : List Char) : Option Dir :=
  match d src with
  | none => none
  | some v => some ((d.set src none).set dst (some v))

def isRegular (d : Dir) (n : List Char) : Bool :=
  match d n with
  | some (.regular _) => true
  | _ => false

@[simp] theorem set_set (d : Dir) (n : List Char) (v w : Option Node) :
    (d.set n v).set n w = d.set n w := by
  funext m; simp only [set_apply]; split <;> rfl

theorem set_of_eq {d : Dir} {n : List Char} {v : Option Node} (h : d n = v) : d.set n v = d := by
  funext m; simp only [set_apply]; split <;> simp_all

theorem append_append (d : Dir) (n a b : List Char) :
    (d.append n a).append n b = d.append n (a ++ b) := by
  rcases h : d n with _ | ⟨c⟩ | _ <;> simp [append, h, List.append_assoc]

theorem append_nil (d : Dir) (n : List Char) : d.append n [] = d := by
  unfold append
  rcases h : d n with _ | (c | _)
  · rfl
  · exact set_of_eq (by rw [h, List.append_nil])
  · rfl

/-- Appending to a file creates and removes no entry. -/
theorem append_isSome (d : Dir) (n bytes m : List Char) : (d.append n bytes m).isSome = (d m).isSome := by
  unfold append
  rcases h : d n with _ | (c | _)
  · rfl
  · by_cases hm : m = n
    · subst hm; simp [h]
    · simp [hm]
  · rfl

theorem append_of_regular {d : Dir} {n c : List Char} (h : d n = some (.regular c))
    (bytes : List Char) : d.append n bytes = d.set n (some (.regular (c ++ bytes))) := by
  simp [append, h]

theorem openAppend_of_none {d : Dir} {n : List Char} (h : d n = none) :
    d.openAppend n = some (d.set n (some (.regular []))) := by
  simp [openAppend, h]

theorem openAppend_of_regular {d : Dir} {n c : List Char} (h : d n = some (.regular c)) :
    d.openAppend n = some d := by
  simp [openAppend, h]

/-- A rename to another name leaves no entry at its source. -/
theorem rename_src {d d' : Dir} {src dst : List Char} (h : d.rename src dst = some d') (hne : dst ≠ src) :
    d' src = none := by
  unfold rename at h
  split at h
  · cases h
  · cases h; simp [Ne.symm hne]

theorem size_of_regular {d : Dir} {n c : List Char} (h : d n = some (.regular c)) :
    d.size n = c.length := by
  simp [size, h]

end Dir

/-- `RotatingFileSink`'s configuration, fixed at construction. -/
structure Config where
  basePath : List Char
  maxBytes : Nat
  durableFlush : Bool
  maxRotatedFiles : Nat

/-- The mutable fields of `FileSink` and `RotatingFileSink`, and the directory. `file` is
`file_`: `none` for `nullptr`, else the name the handle was opened on; `buf` is that handle's
stdio buffer, the bytes `fwrite` took that have not reached the file. -/
structure Sink where
  path : List Char
  file : Option (List Char)
  buf : List Char
  bytesWritten : Nat
  rotationsPerformed : Nat
  dir : Dir

/-- A sink object before its constructor body runs, over directory `d`. -/
def Sink.fresh (d : Dir) : Sink :=
  { path := [], file := none, buf := [], bytesWritten := 0, rotationsPerformed := 0, dir := d }

/-- How the `write(2)` calls of an `fflush` end: every buffered byte written, or the first `k`
and then an error, after which glibc drops the rest of the buffer. -/
inductive Flush where
  | done
  | fails (k : Nat)
  deriving Repr, DecidableEq

/-- What glibc's `fwrite` does with the bytes it holds, the handle's buffer followed by the new
data. `buffers k`: the first `k` reach the file and the rest stay buffered, and the call returns
the full count; how many go out depends on the buffer's size (`st_blksize`), which the model
leaves open. `fails k`: the `write(2)` of the overflowing buffer fails after the first `k`, glibc
drops the rest, and the call returns a short count. -/
inductive Fwrite where
  | buffers (k : Nat)
  | fails (k : Nat)
  deriving Repr, DecidableEq

/-- The `fwrite` returns the full count. -/
def Fwrite.succeeds : Fwrite → Bool
  | .buffers _ => true
  | .fails _ => false

/-- What the operating system answers during one public call. `now` and `nsec` are `tv_sec`
and `tv_nsec` of `clock_gettime(CLOCK_REALTIME)`; `payload` and `newline` are what the two
`fwrite`s of `write_line_locked` do, `fflush` how the flush's writes end; `statFails` names the
entries whose status query fails; `scan` is the directory iteration of the prune (`none` when it
cannot be opened or throws while advancing). -/
structure Io where
  fflush : Flush
  fsyncOk : Bool
  now : Nat
  nsec : Nat
  statFails : List Char → Bool
  renameOk : Bool
  fopenOk : Bool
  fseekOk : Bool
  scan : Option (List (List Char))
  removeOk : List Char → Bool
  payload : Fwrite
  newline : Fwrite

/-- Every library call of the call succeeds. -/
structure Io.AllOk (io : Io) : Prop where
  fflush : io.fflush = .done
  fsync : io.fsyncOk = true
  stat : ∀ m, io.statFails m = false
  rename : io.renameOk = true
  fopen : io.fopenOk = true
  fseek : io.fseekOk = true
  payload : io.payload.succeeds = true
  newline : io.newline.succeeds = true

abbrev M := EStateM Exn Sink

section Plumbing

variable {α β : Type} (s : Sink)

@[simp] theorem M.bind_apply (x : M α) (f : α → M β) :
    (x >>= f) s = match x s with
      | .ok a s' => f a s'
      | .error e s' => .error e s' := by
  show EStateM.bind x f s = _
  unfold EStateM.bind; cases x s <;> rfl

@[simp] theorem M.pure_apply (a : α) : (pure a : M α) s = .ok a s := rfl

@[simp] theorem M.get_apply : (get : M Sink) s = .ok s s := rfl

@[simp] theorem M.set_apply (s' : Sink) : (set s' : M PUnit) s = .ok () s' := rfl

@[simp] theorem M.modify_apply (f : Sink → Sink) : (modify f : M PUnit) s = .ok () (f s) := rfl

@[simp] theorem M.throw_apply (e : Exn) : (throw e : M α) s = .error e s := rfl

@[simp] theorem M.tryCatch_apply (x : M α) (h : Exn → M α) :
    (tryCatch x h : M α) s = match x s with
      | .ok a s' => .ok a s'
      | .error e s' => h e s' := by
  show EStateM.tryCatch x h s = _
  unfold EStateM.tryCatch; cases x s <;> rfl

end Plumbing

/-- The state a call leaves, whether it returned or threw. -/
def stateOf {α : Type} : EStateM.Result Exn Sink α → Sink
  | .ok _ s => s
  | .error _ s => s

@[simp] theorem stateOf_ok {α : Type} (a : α) (s : Sink) : stateOf (.ok a s) = s := rfl

@[simp] theorem stateOf_error {α : Type} (e : Exn) (s : Sink) :
    stateOf (.error e s : EStateM.Result Exn Sink α) = s := rfl

end SimLogger
