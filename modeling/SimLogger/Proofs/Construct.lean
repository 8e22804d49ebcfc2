import SimLogger.Sanity.Steps

/-! The constructor on a configuration it rejects. An empty path is refused by the `FileSink`
base before anything is opened. A zero `max_bytes` is refused only in the body of the
`RotatingFileSink` constructor, after the base has opened the base file, creating it when it
was absent: the file stays behind, and when that open fails the exception is the open's
`runtime_error`, not the `invalid_argument` of the check. -/

namespace SimLogger

theorem rotatingFileSinkInit_rejected (cfg : Config) (io : Io) (d : Dir) :
    (cfg.basePath = [] →
      rotatingFileSinkInit cfg io (Sink.fresh d) =
        .error (.invalidArgument "FileSink path must not be empty") (Sink.fresh d)) ∧
    (cfg.basePath ≠ [] → cfg.maxBytes = 0 →
      match if io.fopenOk then d.openAppend cfg.basePath else none with
      | none =>
        rotatingFileSinkInit cfg io (Sink.fresh d) =
          .error (.runtimeError ("FileSink fopen failed for \x27" ++ String.mk cfg.basePath ++ "\x27: "))
            { Sink.fresh d with path := cfg.basePath }
      | some d' =>
        rotatingFileSinkInit cfg io (Sink.fresh d) =
          .error (.invalidArgument "RotatingFileSink max_bytes must be > 0")
            { Sink.fresh d with path := cfg.basePath, dir := d' }) := by
  refine ⟨fun hb => ?_, fun hb hz => ?_⟩
  · rw [rotatingFileSinkInit_eq, fileSinkInit_eq, if_pos hb, hb]; rfl
  · rw [rotatingFileSinkInit_eq, fileSinkInit_eq, if_neg hb, openLockedOrThrow_eq]
    split <;> rename_i h <;> simp only [Sink.fresh] at h ⊢ <;> rw [h]
    simp [hb, hz, Sink.closed, Dir.append_nil]

/-- `RotatingFileSink("a", .., max_bytes = 0, ..)` in a directory without `a` throws the
`invalid_argument` of its check, with `a` created; and when `fopen` fails, the exception is a
`runtime_error`. -/
theorem rotatingFileSinkInit_zero_max_bytes :
    (∃ s, rotatingFileSinkInit ⟨['a'], 0, false, 0⟩ okIo (Sink.fresh fun _ => none) =
      .error (.invalidArgument "RotatingFileSink max_bytes must be > 0") s ∧
      s.dir ['a'] = some (.regular [])) ∧
    rotatingFileSinkInit ⟨['a'], 0, false, 0⟩ { okIo with fopenOk := false } (Sink.fresh fun _ => none) =
      .error (.runtimeError "FileSink fopen failed for \x27a\x27: ") { Sink.fresh fun _ => none with path := ['a'] } :=
  have h := (rotatingFileSinkInit_rejected ⟨['a'], 0, false, 0⟩ okIo fun _ => none).2 (by decide) rfl
  ⟨⟨_, h, rfl⟩,
    (rotatingFileSinkInit_rejected ⟨['a'], 0, false, 0⟩ { okIo with fopenOk := false } fun _ => none).2 (by decide) rfl⟩

end SimLogger
