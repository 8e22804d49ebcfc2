import SimLogger.Proofs.Counter

/-! Nothing on disk is lost. With `max_rotated_files = 0`, so that the prune deletes nothing,
and with every status query answering, a run of `write` and `flush` calls, each of which may
fail at any other step, keeps every entry of the directory: the base file's bytes move to the
rotated name the probe found free, and files only grow. An injective map sends each entry
before the run to one of the same kind after it, each file's bytes a prefix of its image's. -/

namespace SimLogger

/-- Entry `a` before and `b` after: nothing before, or the same kind, a file's bytes kept as a
prefix. -/
def NodeLe : Option Node → Option Node → Prop
  | none, _ => True
  | some (.regular c), some (.regular c') => c <+: c'
  | some .other, some .other => True
  | _, _ => False

theorem NodeLe.refl : ∀ a, NodeLe a a
  | none => trivial
  | some (.regular c) => List.prefix_refl c
  | some .other => trivial

theorem NodeLe.trans : ∀ {a b c : Option Node}, NodeLe a b → NodeLe b c → NodeLe a c
  | none, _, _, _, _ => trivial
  | some (.regular _), some (.regular _), some (.regular _), h1, h2 => List.IsPrefix.trans h1 h2
  | some .other, some .other, some .other, _, _ => trivial

theorem NodeLe.ne_none : ∀ {a b : Option Node}, NodeLe a b → a ≠ none → b ≠ none
  | some (.regular _), some (.regular _), _, _ => Option.some_ne_none _
  | some .other, some .other, _, _ => Option.some_ne_none _

/-- `d'` keeps every entry of `d`: an injective map sends each entry to one of the same kind
in `d'`, each file's bytes a prefix of its image's. -/
def Dir.Keeps (d d' : Dir) : Prop :=
  ∃ f : List Char → List Char, (∀ a b, d a ≠ none → d b ≠ none → f a = f b → a = b) ∧
    ∀ n, NodeLe (d n) (d' (f n))

namespace Dir.Keeps

variable {d d' d'' : Dir}

theorem of_le (h : ∀ n, NodeLe (d n) (d' n)) : d.Keeps d' := ⟨id, fun _ _ _ _ => id, h⟩

theorem refl (d : Dir) : d.Keeps d := of_le fun _ => NodeLe.refl _

theorem trans (h1 : d.Keeps d') (h2 : d'.Keeps d'') : d.Keeps d'' := by
  obtain ⟨f, hf, hle⟩ := h1
  obtain ⟨g, hg, hle'⟩ := h2
  exact ⟨g ∘ f, fun a b ha hb he => hf a b ha hb (hg _ _ ((hle a).ne_none ha) ((hle b).ne_none hb) he),
    fun n => (hle n).trans (hle' (f n))⟩

theorem append (d : Dir) (n bytes : List Char) : d.Keeps (d.append n bytes) := by
  refine of_le fun m => ?_
  unfold Dir.append
  rcases hn : d n with _ | (c | _)
  · exact NodeLe.refl _
  · simp only [Dir.set_apply]
    split
    · subst m; rw [hn]; exact List.prefix_append c bytes
    · exact NodeLe.refl _
  · exact NodeLe.refl _

theorem openAppend {n : List Char} (h : d.openAppend n = some d') : d.Keeps d' := by
  unfold Dir.openAppend at h
  split at h <;> cases h
  · rename_i hn
    refine of_le fun m => ?_
    simp only [Dir.set_apply]
    split
    · subst m; rw [hn]; trivial
    · exact NodeLe.refl _
  · exact refl d

/-- A rename onto a free name moves the entry and keeps everything else. -/
theorem rename {src dst : List Char} (h : d.rename src dst = some d') (hdst : d dst = none) : d.Keeps d' := by
  unfold Dir.rename at h
  split at h
  · cases h
  rename_i v hv
  cases h
  refine ⟨fun n => if n = src then dst else n, fun a b ha hb he => ?_, fun n => ?_⟩
  · by_cases has : a = src <;> by_cases hbs : b = src <;> simp only [has, hbs, ite_true, ite_false] at he
    · exact has.trans hbs.symm
    · subst he; exact absurd hdst hb
    · subst he; exact absurd hdst ha
    · exact he
  · by_cases hn : n = src
    · subst hn; simp only [ite_true, Dir.set_apply, hv]; exact NodeLe.refl _
    · simp only [hn, ite_false, Dir.set_apply]
      split
      · rename_i hnd; rw [hnd, hdst]; trivial
      · exact NodeLe.refl _

theorem drain (s : Sink) (k : Nat) : s.dir.Keeps (s.drain k).dir := by
  rcases hf : s.file with _ | n
  · rw [Sink.drain_of_none s hf]; exact refl _
  · rw [Sink.drain_of_some s hf]; exact append _ _ _

end Dir.Keeps

/-- A caller that catches every exception and carries on with the same sink. -/
def callRun (cfg : Config) (srt : Sorter) : List (Call × Io) → Sink → Sink
  | [], s => s
  | (c, io) :: rest, s => callRun cfg srt rest (stateOf (call cfg srt c io s))

section

variable {cfg : Config} {s : Sink} {io : Io}

theorem writeLineLocked_keeps (line : List Char) :
    s.dir.Keeps (stateOf (writeLineLocked line io s)).dir := by
  rcases hf : s.file with _ | n
  · rw [writeLineLocked_none s io line hf]; exact .refl _
  · rcases writeLineLocked_cases s io line hf with ⟨_, _, _, hw⟩ | ⟨_, _, _, _, _, hw⟩ <;>
      rw [hw] <;> exact .append _ _ _

/-- A rotation with every status query answering moves the base file onto a free name,
opens a new base file and, under a limit of zero, deletes nothing. -/
theorem rotateLocked_keeps (srt : Sorter) (hN : cfg.maxRotatedFiles = 0) (hstat : ∀ n, io.statFails n = false) :
    s.dir.Keeps (stateOf (rotateLocked cfg srt io s)).dir := by
  rcases rotateLocked_cases cfg srt io s with ⟨e, k, he, -⟩ | ⟨e, he⟩ | ⟨p, d, hu, hd, ⟨e, he⟩ | ⟨d', hd', he⟩⟩ <;>
    rw [he]
  · exact .drain s k
  · simpa only [stateOf_error, Sink.flushed_closed] using Dir.Keeps.drain s _
  all_goals have hp : s.flushed.dir p = none := by simpa [fileExists, hstat] using uniqueName_some _ _ hu
  · exact (Dir.Keeps.drain s _).trans (.rename hd hp)
  · simpa only [stateOf_ok, pruneOldRotationsLocked_of_zero io cfg srt hN] using
      ((Dir.Keeps.drain s _).trans (.rename hd hp)).trans (.openAppend hd')

theorem call_keeps (srt : Sorter) (c : Call) (hN : cfg.maxRotatedFiles = 0)
    (hstat : ∀ n, io.statFails n = false) : s.dir.Keeps (stateOf (call cfg srt c io s)).dir := by
  cases c with
  | flush =>
    obtain ⟨k, hk⟩ := stateOf_flushLocked s io cfg
    rw [call, flush, hk]
    exact .drain s k
  | write line =>
    rw [call, write_eq]
    split
    · have hr := rotateLocked_keeps (s := s) srt hN hstat
      rcases hrot : rotateLocked cfg srt io s with ⟨_, s'⟩ | ⟨e, s'⟩ <;> rw [hrot] at hr
      · exact hr.trans (writeLineLocked_keeps line)
      · exact hr
    · exact writeLineLocked_keeps line

end

/-- With `max_rotated_files = 0` and every status query answering, no run of calls loses or
changes a byte on disk, whatever else fails: every entry before the run is, injectively, an
entry of the same kind after it, each file's bytes a prefix of its image's. -/
theorem callRun_keeps (cfg : Config) (srt : Sorter) (hN : cfg.maxRotatedFiles = 0)
    (calls : List (Call × Io)) (hstat : ∀ p ∈ calls, ∀ n, p.2.statFails n = false) (s : Sink) :
    s.dir.Keeps (callRun cfg srt calls s).dir := by
  induction calls generalizing s with
  | nil => exact .refl _
  | cons p calls ih =>
    rw [List.forall_mem_cons] at hstat
    exact (call_keeps srt p.1 hN hstat.1).trans (ih hstat.2 _)

theorem callRun_keeps_two_writes :
    ((⟨['a'], 1, false, 0⟩ : Config).maxRotatedFiles = 0 ∧
      ∀ p ∈ [(Call.write ['x'], okIo), (Call.write ['y'], okIo)], ∀ n, p.2.statFails n = false) ∧
    openSink.dir.Keeps
      (callRun ⟨['a'], 1, false, 0⟩ mergeSorter [(.write ['x'], okIo), (.write ['y'], okIo)] openSink).dir :=
  ⟨⟨rfl, by simp [okIo]⟩, callRun_keeps ⟨['a'], 1, false, 0⟩ mergeSorter rfl _ (by simp [okIo]) openSink⟩

end SimLogger
