import SimLogger.Proofs.AppendLog
import SimLogger.Proofs.Frame
import SimLogger.Proofs.Probe
import SimLogger.Proofs.SameSecond

/-! Retention when rotations fall in different seconds. Within one second the name probe can
reuse a name an earlier prune freed, and the prune can then delete the newest rotated file
(`Proofs/SameSecond`). When every call comes in a later second than the one before, and before
libstdc++'s count of nanoseconds wraps, each rotation takes the bare name `base.ts` of its own
second, later than every name on disk, so the keys `(ts, 0)` order the rotated files as they
were made. With every library call succeeding and each prune's scan listing the directory, the
rotated files on disk after any run are then exactly those of the last `max_rotated_files`
rotations, and which writes rotate follows from the lengths of the lines alone. -/

namespace SimLogger

/-- `rotated_base` of `rotate_locked` in second `t` of a clock that has not wrapped:
`base_path_ + "." + ts`. -/
def rotatedBase (basePath : List Char) (t : Nat) : List Char := basePath ++ '.' :: timestampAt t

/-- The prune's candidate for the rotated file of second `t`. -/
def stampCandidate (basePath : List Char) (t : Nat) : Candidate := ⟨rotatedBase basePath t, timestampAt t, 0⟩

@[simp] theorem stampCandidate_path (basePath : List Char) (t : Nat) :
    (stampCandidate basePath t).path = rotatedBase basePath t := rfl

@[simp] theorem stampCandidate_ts (basePath : List Char) (t : Nat) :
    (stampCandidate basePath t).ts = timestampAt t := rfl

@[simp] theorem stampCandidate_seq (basePath : List Char) (t : Nat) : (stampCandidate basePath t).seq = 0 := rfl

/-- The last `n` entries of `ts`. -/
def lastN (n : Nat) (ts : List Nat) : List Nat := ts.drop (ts.length - n)

/-- Whether a call rotates when `size` bytes went to the base file since it was opened: a write
whose line would bring them to `max_bytes`. -/
def Call.rotates (maxBytes size : Nat) : Call → Bool
  | .write line => decide (maxBytes ≤ size + (terminated line).length)
  | .flush => false

/-- The bytes since the base file was opened, after a call. -/
def Call.sizeAfter (maxBytes size : Nat) : Call → Nat
  | .write line =>
    if maxBytes ≤ size + (terminated line).length then (terminated line).length else size + (terminated line).length
  | .flush => size

/-- The seconds of the writes of a run that rotate, from the lines' lengths alone, starting with
`size` bytes in the base file. -/
def rotationTimes (maxBytes : Nat) : Nat → List (Call × Io) → List Nat
  | _, [] => []
  | size, (c, io) :: rest =>
    (if c.rotates maxBytes size then [io.now] else []) ++ rotationTimes maxBytes (c.sizeAfter maxBytes size) rest

/-- The answers of a call in which every library call succeeds, every removal too, and the
prune's scan lists each entry of `d`, the directory the call starts from, and the new rotated
name `p`, each once. -/
structure Io.Complete (io : Io) (d : Dir) (p : List Char) : Prop where
  allOk : io.AllOk
  remove : ∀ m, io.removeOk m = true
  scan : ∃ listing, io.scan = some listing ∧ listing.Nodup ∧ p ∈ listing ∧ ∀ m, d m ≠ none → m ∈ listing

/-- Every call of a run answers as `Io.Complete` says. -/
def CompleteRun (cfg : Config) (srt : Sorter) : List (Call × Io) → Sink → Prop
  | [], _ => True
  | (c, io) :: rest, s =>
    io.Complete s.dir (rotatedBase cfg.basePath io.now) ∧ CompleteRun cfg srt rest (stateOf (call cfg srt c io s))

/-- One more reading kept: the last `n` of the last `n` and a new one are the last `n` of all. -/
theorem lastN_snoc (n : Nat) (ts : List Nat) (t : Nat) :
    lastN n (lastN n ts ++ [t]) = lastN n (ts ++ [t]) := by
  unfold lastN
  rw [← List.drop_append_of_le_length (Nat.sub_le _ _), List.drop_drop]
  congr 1
  simp only [List.length_append, List.length_drop, List.length_singleton]
  omega

section Stamps

variable {base : List Char}

theorem rotatedBase_inj {t1 t2 : Nat} (h1 : t1 ≤ 253402300799) (h2 : t2 ≤ 253402300799)
    (h : rotatedBase base t1 = rotatedBase base t2) : t1 = t2 := by
  have he : timestampAt t1 = timestampAt t2 := by simpa [rotatedBase] using h
  rcases Nat.lt_trichotomy t1 t2 with hlt | rfl | hlt
  · have := timestampAt_strictMono hlt h2
    rw [he, strLt_irrefl] at this; cases this
  · rfl
  · have := timestampAt_strictMono hlt h1
    rw [he, strLt_irrefl] at this; cases this

theorem parseRotationSuffix_rotatedBase {t : Nat} (ht : t ≤ 253402300799) :
    parseRotationSuffix (rotatedBase base t) base = some (timestampAt t, 0) :=
  parseRotationSuffix_eq_some.mpr ⟨timestampAt_shape ht, .inl ⟨rfl, rfl⟩⟩

theorem rotatedBase_ne_base {t : Nat} (ht : t ≤ 253402300799) : rotatedBase base t ≠ base :=
  parseRotationSuffix_ne_base (parseRotationSuffix_rotatedBase ht)

/-- No rotation name is the base file's own. -/
theorem ne_base_of_parse {n : List Char} (h : parseRotationSuffix n base ≠ none) : n ≠ base := by
  rcases hp : parseRotationSuffix n base with _ | p
  · exact absurd hp h
  · exact parseRotationSuffix_ne_base hp

/-- A later second is a later key. -/
theorem stampCandidate_before {t1 t2 : Nat} (h : t1 < t2) (h2 : t2 ≤ 253402300799) :
    (stampCandidate base t1).before (stampCandidate base t2) = true := by
  have hlt := timestampAt_strictMono h h2
  have hne : timestampAt t1 ≠ timestampAt t2 := fun e => by
    rw [e, strLt_irrefl] at hlt; cases hlt
  simp [Candidate.before, stampCandidate, hne, hlt]

end Stamps

theorem Dir.isRegular_set_of_ne (d : Dir) {m n : List Char} (v : Option Node) (h : m ≠ n) :
    (d.set n v).isRegular m = d.isRegular m := by
  simp [Dir.isRegular, h]

/-- The entries of `d` whose names parse as rotations of `base` are exactly the regular files
stamped with the clock readings `ts`, which increase and stay within the fixed-shape years. -/
structure Stamped (base : List Char) (ts : List Nat) (d : Dir) : Prop where
  sorted : ts.Pairwise (· < ·)
  clock : ∀ t ∈ ts, t ≤ 253402300799
  regular : ∀ t ∈ ts, d.isRegular (rotatedBase base t) = true
  only : ∀ n, parseRotationSuffix n base ≠ none → d n ≠ none → ∃ t ∈ ts, n = rotatedBase base t

namespace Stamped

variable {base : List Char} {ts : List Nat} {d : Dir}

/-- Whatever happens to the base file leaves the rotated files as they are. -/
theorem set_base (h : Stamped base ts d) (v : Option Node) : Stamped base ts (d.set base v) := by
  refine ⟨h.sorted, h.clock, fun t ht => ?_, fun n hn hd => h.only n hn ?_⟩
  · rw [Dir.isRegular_set_of_ne _ _ (rotatedBase_ne_base (h.clock t ht))]
    exact h.regular t ht
  · simpa [ne_base_of_parse hn] using hd

/-- Renaming the base file onto the name of a later second and opening a new base file adds
that second to the stamps. -/
theorem rename (h : Stamped base ts d) {c : List Char} {now : Nat} (hlt : ∀ t ∈ ts, t < now)
    (hnow : now ≤ 253402300799) :
    Stamped base (ts ++ [now])
      (((d.set base none).set (rotatedBase base now) (some (.regular c))).set base (some (.regular []))) := by
  refine Stamped.set_base ⟨?_, ?_, fun t ht => ?_, fun n hn hd => ?_⟩ _
  · exact List.pairwise_append.mpr ⟨h.sorted, List.pairwise_singleton _ _,
      fun a ha b hb => (List.mem_singleton.mp hb) ▸ hlt a ha⟩
  · exact fun t ht => (List.mem_append.mp ht).elim (h.clock t) fun e => (List.mem_singleton.mp e) ▸ hnow
  · rcases List.mem_append.mp ht with ht | ht
    · have hne : rotatedBase base t ≠ rotatedBase base now := fun e =>
        absurd (rotatedBase_inj (h.clock t ht) hnow e) (Nat.ne_of_lt (hlt t ht))
      rw [Dir.isRegular_set_of_ne _ _ hne, Dir.isRegular_set_of_ne _ _ (rotatedBase_ne_base (h.clock t ht))]
      exact h.regular t ht
    · rw [List.mem_singleton.mp ht]
      simp [Dir.isRegular]
  · by_cases hp : n = rotatedBase base now
    · exact ⟨now, by simp, hp⟩
    · obtain ⟨t, ht, rfl⟩ := h.only n hn (by simpa [hp, ne_base_of_parse hn] using hd)
      exact ⟨t, List.mem_append_left _ ht, rfl⟩

/-- The candidates a complete scan collects are the stamped files, in some order. -/
theorem candidates_perm (h : Stamped base ts d) {listing : List (List Char)} (hnodup : listing.Nodup)
    (hlist : ∀ m, d m ≠ none → m ∈ listing) :
    (dirCandidates d base listing).Perm (ts.map (stampCandidate base)) := by
  have hts : ts.Nodup := h.sorted.imp Nat.ne_of_lt
  refine (List.perm_ext_iff_of_nodup (dirCandidates_nodup hnodup)
    (hts.map_on fun a ha b hb e => rotatedBase_inj (h.clock a ha) (h.clock b hb) (congrArg Candidate.path e))).mpr
    fun c => ?_
  rw [mem_dirCandidates, List.mem_map]
  constructor
  · rintro ⟨-, hreg, hparse⟩
    obtain ⟨t, ht, hpath⟩ := h.only c.path (by simp [hparse]) (Dir.ne_none_of_isRegular hreg)
    rw [hpath, parseRotationSuffix_rotatedBase (h.clock t ht)] at hparse
    obtain ⟨p, x, q⟩ := c
    simp only [Option.some.injEq, Prod.mk.injEq] at hparse hpath
    obtain ⟨rfl, rfl⟩ := hparse
    exact ⟨t, ht, by rw [hpath]; rfl⟩
  · rintro ⟨t, ht, rfl⟩
    have hreg := h.regular t ht
    rw [stampCandidate_path, stampCandidate_ts, stampCandidate_seq]
    exact ⟨hlist _ (Dir.ne_none_of_isRegular hreg), hreg, parseRotationSuffix_rotatedBase (h.clock t ht)⟩

/-- Deleting the files of the first `k` stamps leaves exactly the files of the others. -/
theorem remove (h : Stamped base ts d) (k : Nat) :
    Stamped base (ts.drop k) fun n => if n ∈ (ts.take k).map (rotatedBase base) then none else d n := by
  refine ⟨h.sorted.sublist (List.drop_sublist _ _), fun t ht => h.clock t (List.mem_of_mem_drop ht),
    fun t ht => ?_, fun n hn hd => ?_⟩
  · have hkeep : rotatedBase base t ∉ (ts.take k).map (rotatedBase base) := fun hm => by
      obtain ⟨t', ht', he⟩ := List.mem_map.mp hm
      rw [rotatedBase_inj (h.clock t' (List.mem_of_mem_take ht')) (h.clock t (List.mem_of_mem_drop ht)) he] at ht'
      exact List.disjoint_take_drop (h.sorted.imp Nat.ne_of_lt) (Nat.le_refl k) ht' ht
    unfold Dir.isRegular
    dsimp only
    rw [if_neg hkeep]
    exact h.regular t (List.mem_of_mem_drop ht)
  · split at hd
    · exact absurd rfl hd
    rename_i hdel
    obtain ⟨t, ht, rfl⟩ := h.only n hn hd
    rw [← List.take_append_drop k ts] at ht
    exact ⟨t, (List.mem_append.mp ht).resolve_left fun h' => hdel (List.mem_map_of_mem _ h'), rfl⟩

end Stamped

section Prune

variable {cfg : Config} (srt : Sorter) {io : Io} {d : Dir} {ts : List Nat} {listing : List (List Char)}

/-- A prune with a complete scan, every status query and removal succeeding, over a directory
whose rotated files are stamped `ts`, deletes exactly the files of the oldest
`ts.length - max_rotated_files` stamps. -/
theorem pruneOldRotationsLocked_stamped (hN : 0 < cfg.maxRotatedFiles) (h : Stamped cfg.basePath ts d)
    (hscan : io.scan = some listing) (hnodup : listing.Nodup) (hlist : ∀ m, d m ≠ none → m ∈ listing)
    (hstat : ∀ m, io.statFails m = false) (hrm : ∀ m, io.removeOk m = true) :
    pruneOldRotationsLocked cfg srt io d = fun n =>
      if n ∈ (ts.take (ts.length - cfg.maxRotatedFiles)).map (rotatedBase cfg.basePath) then none else d n := by
  have hperm := h.candidates_perm hnodup hlist
  have hsort : srt.sort (dirCandidates d cfg.basePath listing) = ts.map (stampCandidate cfg.basePath) :=
    Candidate.eq_of_perm_of_sorted
      (List.pairwise_map.mpr (h.sorted.imp_of_mem fun ha hb hab => stampCandidate_before hab (h.clock _ hb)))
      ((srt.perm _).trans hperm) (srt.sorted _)
  funext n
  rw [pruneOldRotationsLocked_of_scan cfg srt io d hN hscan, collectCandidates_of_no_fail hstat, removeAll_apply,
    pruneSelection, hsort, hperm.length_eq, List.length_map, ← List.map_take]
  simp only [hrm, and_true, List.mem_map, exists_exists_and_eq_and, stampCandidate]

end Prune

/-- The `RotatingFileSink` constructor returns only when its `FileSink` base did, in the same
state. -/
theorem fileSinkInit_of_rotatingFileSinkInit {cfg : Config} {io : Io} {s0 s : Sink}
    (h : rotatingFileSinkInit cfg io s0 = .ok () s) : fileSinkInit cfg.basePath io s0 = .ok () s := by
  rw [rotatingFileSinkInit_eq] at h
  split at h
  · cases h
  · rename_i hs
    split_ifs at h
    cases h
    exact hs

theorem fileSinkInit_rotationsPerformed {path : List Char} {io : Io} {s0 s : Sink}
    (h : fileSinkInit path io s0 = .ok () s) : s.rotationsPerformed = s0.rotationsPerformed := by
  rw [fileSinkInit_eq] at h
  split at h
  · cases h
  rw [openLockedOrThrow_eq] at h
  split at h <;> cases h
  rfl

/-- The run invariant: the handle is open on the base file, a regular file, the counter is
`size`, and the rotated files on disk are exactly those stamped `ts`. -/
structure Kept (cfg : Config) (size : Nat) (ts : List Nat) (s : Sink) : Prop where
  file : s.file = some cfg.basePath
  base : ∃ c, s.dir cfg.basePath = some (.regular c)
  count : s.bytesWritten = size
  stamped : Stamped cfg.basePath ts s.dir

namespace Kept

variable {cfg : Config} (srt : Sorter) {s : Sink} {io : Io} {size : Nat} {ts : List Nat}

/-- Bytes appended to the base file leave the rotated files as they are. -/
theorem append (h : Kept cfg size ts s) (t : List Char) : ∃ c, s.dir.append cfg.basePath t cfg.basePath =
    some (.regular c) ∧ Stamped cfg.basePath ts (s.dir.append cfg.basePath t) := by
  obtain ⟨c, hc⟩ := h.base
  rw [Dir.append_of_regular hc]
  exact ⟨c ++ t, by simp, h.stamped.set_base _⟩

theorem flushed (h : Kept cfg size ts s) : Kept cfg size ts s.flushed := by
  obtain ⟨c, hc, hs⟩ := h.append s.buf
  rw [Sink.flushed_of_some s h.file]
  exact ⟨h.file, ⟨c, hc⟩, h.count, hs⟩

/-- A line written with every I/O call succeeding is counted, and goes to the base file or its
buffer. -/
theorem writeLine (h : Kept cfg size ts s) (line : List Char) (hio : io.AllOk) :
    ∃ s', writeLineLocked line io s = .ok () s' ∧ Kept cfg (size + (terminated line).length) ts s' ∧
      s'.rotationsPerformed = s.rotationsPerformed := by
  obtain ⟨t, b, -, hw⟩ := writeLineLocked_allOk line h.file hio
  obtain ⟨c, hc, hs⟩ := h.append t
  exact ⟨_, hw, ⟨h.file, ⟨c, hc⟩, by simp [h.count, normLine_eq_terminated], hs⟩, rfl⟩

/-- A rotation in a later second than every stamp on disk takes the bare name of its second,
and the prune keeps the last `max_rotated_files` stamps. -/
theorem rotate (h : Kept cfg size ts s) (hN : 0 < cfg.maxRotatedFiles)
    (hio : io.Complete s.dir (rotatedBase cfg.basePath io.now)) (hwrap : BeforeWrap io.now io.nsec)
    (hlt : ∀ t ∈ ts, t < io.now) :
    ∃ s', rotateLocked cfg srt io s = .ok () s' ∧ Kept cfg 0 (lastN cfg.maxRotatedFiles (ts ++ [io.now])) s' ∧
      s'.rotationsPerformed = s.rotationsPerformed + 1 := by
  obtain ⟨c, hc0⟩ := h.base
  have hnow : io.now ≤ 253402300799 := by have := hwrap.le; omega
  have hfree : s.dir (rotatedBase cfg.basePath io.now) = none := by
    by_contra hne
    obtain ⟨t, ht, he⟩ := h.stamped.only _ (by simp [parseRotationSuffix_rotatedBase hnow]) hne
    exact absurd (hlt t ht) (by rw [rotatedBase_inj hnow (h.stamped.clock t ht) he]; exact Nat.lt_irrefl t)
  have hu : uniqueName (fun n => (s.dir n).isSome) (cfg.basePath ++ '.' :: makeTimestampUtc io.now io.nsec) =
      some (rotatedBase cfg.basePath io.now) := by
    rw [makeTimestampUtc_of_beforeWrap hwrap]
    exact uniqueName_of_free _ _ (show (s.dir (rotatedBase cfg.basePath io.now)).isSome = false by simp [hfree])
  rw [rotateLocked_allOk cfg srt h.file hc0 hio.allOk, hu]
  obtain ⟨listing, hscan, hnodup, hp, hall⟩ := hio.scan
  have hlist : ∀ m, (((s.dir.set cfg.basePath none).set (rotatedBase cfg.basePath io.now)
      (some (.regular (c ++ s.buf)))).set cfg.basePath (some (.regular []))) m ≠ none → m ∈ listing := fun m hm => by
    by_cases hb : m = cfg.basePath
    · exact hall m (by rw [hb, hc0]; exact Option.some_ne_none _)
    by_cases hr : m = rotatedBase cfg.basePath io.now
    · exact hr ▸ hp
    · exact hall m (by simpa [hb, hr] using hm)
  have h2 := h.stamped.rename (c := c ++ s.buf) hlt hnow
  have h3 := h2.remove ((ts ++ [io.now]).length - cfg.maxRotatedFiles)
  rw [← pruneOldRotationsLocked_stamped srt hN h2 hscan hnodup hlist hio.allOk.stat hio.remove] at h3
  exact ⟨_, rfl, ⟨rfl, ⟨[], by simp [pruneOldRotationsLocked_base]⟩, rfl, h3⟩, rfl⟩

/-- One call: the stamps gain the call's second, and lose the oldest beyond the limit, exactly
when the lengths say the call rotates, and `rotations_performed` counts it. -/
theorem call (h : Kept cfg size ts s) (hN : 0 < cfg.maxRotatedFiles) (c : Call)
    (hio : io.Complete s.dir (rotatedBase cfg.basePath io.now)) (hwrap : BeforeWrap io.now io.nsec)
    (hlt : ∀ t ∈ ts, t < io.now) :
    Kept cfg (c.sizeAfter cfg.maxBytes size)
      (if c.rotates cfg.maxBytes size then lastN cfg.maxRotatedFiles (ts ++ [io.now]) else ts)
      (stateOf (SimLogger.call cfg srt c io s)) ∧
    (stateOf (SimLogger.call cfg srt c io s)).rotationsPerformed =
      s.rotationsPerformed + if c.rotates cfg.maxBytes size then 1 else 0 := by
  cases c with
  | flush =>
    rw [SimLogger.call, flush, stateOf_flushLocked_of_done s io cfg hio.allOk.fflush]
    exact ⟨h.flushed, by simp [Call.rotates]⟩
  | write line =>
    rw [SimLogger.call, write_eq, h.count, normLine_eq_terminated]
    by_cases hc : cfg.maxBytes ≤ size + (terminated line).length
    · obtain ⟨s1, hr, h1, hrp1⟩ := h.rotate srt hN hio hwrap hlt
      obtain ⟨s2, hw, h2, hrp2⟩ := h1.writeLine line hio.allOk
      rw [if_pos hc, hr]
      dsimp only
      rw [hw]
      simp only [Call.rotates, Call.sizeAfter, hc, decide_True, if_true, stateOf_ok]
      exact ⟨by simpa using h2, by rw [hrp2, hrp1]⟩
    · obtain ⟨s2, hw, h2, hrp2⟩ := h.writeLine line hio.allOk
      rw [if_neg hc, hw]
      simp only [Call.rotates, Call.sizeAfter, hc, decide_False, if_false, stateOf_ok]
      exact ⟨h2, hrp2⟩

/-- Along a run whose calls come in increasing seconds, `rotations_performed` counts the
rotations the lengths predict, and the stamps on disk are the last `max_rotated_files` of their
seconds so far. -/
theorem callRun (hN : 0 < cfg.maxRotatedFiles) (calls : List (Call × Io)) (hist : List Nat)
    (h : Kept cfg size (lastN cfg.maxRotatedFiles hist) s) (hrun : CompleteRun cfg srt calls s)
    (hclock : (calls.map fun p => p.2.now).Pairwise (· < ·)) (hwrap : ∀ p ∈ calls, BeforeWrap p.2.now p.2.nsec)
    (hlt : ∀ t ∈ hist, ∀ p ∈ calls, t < p.2.now) :
    (∃ size', Kept cfg size' (lastN cfg.maxRotatedFiles (hist ++ rotationTimes cfg.maxBytes size calls))
        (SimLogger.callRun cfg srt calls s)) ∧
      (SimLogger.callRun cfg srt calls s).rotationsPerformed =
        s.rotationsPerformed + (rotationTimes cfg.maxBytes size calls).length := by
  induction calls generalizing s hist size with
  | nil => exact ⟨⟨size, by simpa [rotationTimes, SimLogger.callRun] using h⟩, rfl⟩
  | cons p calls ih =>
    obtain ⟨c, io⟩ := p
    rw [List.map_cons, List.pairwise_cons] at hclock
    obtain ⟨step, hrp⟩ := h.call srt hN c hrun.1 (hwrap _ (List.mem_cons_self _ _))
      (fun t ht => hlt t (List.mem_of_mem_drop ht) _ (List.mem_cons_self _ _))
    have h' : Kept cfg (c.sizeAfter cfg.maxBytes size) (lastN cfg.maxRotatedFiles (hist ++
        if c.rotates cfg.maxBytes size then [io.now] else [])) (stateOf (SimLogger.call cfg srt c io s)) := by
      split at step
      · rwa [if_pos ‹_›, ← lastN_snoc]
      · rwa [if_neg ‹_›, List.append_nil]
    obtain ⟨ih1, ih2⟩ := ih _ h' hrun.2 hclock.2 (fun q hq => hwrap q (List.mem_cons_of_mem _ hq)) fun t ht q hq => by
      rcases List.mem_append.mp ht with ht | ht
      · exact hlt t ht q (List.mem_cons_of_mem _ hq)
      · split at ht
        · rw [List.mem_singleton.mp ht]; exact hclock.1 _ (List.mem_map_of_mem _ hq)
        · cases ht
    refine ⟨by rwa [rotationTimes, SimLogger.callRun, ← List.append_assoc], ?_⟩
    rw [rotationTimes, SimLogger.callRun, ih2, List.length_append, hrp]
    split <;> simp only [List.length_nil, List.length_singleton] <;> omega

/-- The constructor that returns with its size query answered leaves the handle on a regular
base file, the counter at the file's size, and every other entry as it was, so no rotated file
when the directory held none. -/
theorem init {io : Io} {d : Dir} (hinit : rotatingFileSinkInit cfg io (Sink.fresh d) = .ok () s)
    (hseek : io.fseekOk = true) (hd : ∀ n, parseRotationSuffix n cfg.basePath ≠ none → d n = none) :
    Kept cfg (d.bytes cfg.basePath).length [] s := by
  obtain ⟨hfile, hopen, hbuf⟩ := fileSinkInit_ok (fileSinkInit_of_rotatingFileSinkInit hinit)
  obtain ⟨-, c, hc, hcount⟩ := (init_inv (E := True) (fun _ => hseek) hinit).file _ hfile
  have hc' : c = d.bytes cfg.basePath := by
    rw [Dir.openAppend_eq hopen, Dir.set_apply, if_pos rfl] at hc
    exact (Node.regular.inj (Option.some.inj hc)).symm
  refine ⟨hfile, ⟨c, hc⟩, by rw [hcount trivial, hbuf, hc', List.length_nil, Nat.add_zero],
    ⟨List.Pairwise.nil, nofun, nofun, fun n hn hne => ?_⟩⟩
  exact absurd (by rw [Dir.openAppend_of_ne hopen (ne_base_of_parse hn)]; exact hd n hn) hne

end Kept

/-- From construction on, with the size query of the constructor answered, along every run
whose calls come each in a later second than the one before, before the clock wraps, with every
library call succeeding and each prune's scan listing the directory, in a directory that held
no rotated files of this base: `rotations_performed` counts the writes that the lengths of the
lines say rotate, and the entries whose names parse as rotations of the base are exactly the
files of the last `max_rotated_files` of those writes' seconds. -/
theorem callRun_retention (cfg : Config) (srt : Sorter) (hN : 0 < cfg.maxRotatedFiles) (io0 : Io) (d : Dir) {s : Sink}
    (hinit : rotatingFileSinkInit cfg io0 (Sink.fresh d) = .ok () s) (hseek : io0.fseekOk = true)
    (hd : ∀ n, parseRotationSuffix n cfg.basePath ≠ none → d n = none) (calls : List (Call × Io))
    (hclock : (calls.map fun p => p.2.now).Pairwise (· < ·)) (hwrap : ∀ p ∈ calls, BeforeWrap p.2.now p.2.nsec)
    (hrun : CompleteRun cfg srt calls s) :
    (callRun cfg srt calls s).rotationsPerformed =
        (rotationTimes cfg.maxBytes (d.bytes cfg.basePath).length calls).length ∧
    ∀ n, parseRotationSuffix n cfg.basePath ≠ none →
      ((callRun cfg srt calls s).dir n ≠ none ↔
        n ∈ (lastN cfg.maxRotatedFiles (rotationTimes cfg.maxBytes (d.bytes cfg.basePath).length calls)).map
          (rotatedBase cfg.basePath)) := by
  obtain ⟨⟨size, hK⟩, hcount⟩ :=
    Kept.callRun srt hN calls [] (by simpa [lastN] using Kept.init hinit hseek hd) hrun hclock hwrap nofun
  rw [List.nil_append] at hK
  refine ⟨by rw [hcount, fileSinkInit_rotationsPerformed (fileSinkInit_of_rotatingFileSinkInit hinit)]; exact Nat.zero_add _,
    fun n hn => ⟨fun hne => ?_, fun hm => ?_⟩⟩
  · obtain ⟨t, ht, rfl⟩ := hK.stamped.only n hn hne
    exact List.mem_map_of_mem _ ht
  · obtain ⟨t, ht, rfl⟩ := List.mem_map.mp hm
    exact Dir.ne_none_of_isRegular (hK.stamped.regular t ht)

/-- A sink on `a` with `max_bytes = 1` and a limit of one, built in an empty directory, writes
`x` at clock reading 0: the rotation keeps `a.19700101_000000`. -/
theorem callRun_retention_one_rotation :
    (callRun ⟨['a'], 1, false, 1⟩ mergeSorter
        [(.write ['x'], { okIo with scan := some [['a'], rotatedBase ['a'] 0] })]
        (stateOf (rotatingFileSinkInit ⟨['a'], 1, false, 1⟩ okIo (Sink.fresh fun _ => none)))).rotationsPerformed =
      (rotationTimes 1 (Dir.bytes (fun _ => none) ['a']).length
        [(.write ['x'], { okIo with scan := some [['a'], rotatedBase ['a'] 0] })]).length ∧
    ∀ n, parseRotationSuffix n ['a'] ≠ none →
      ((callRun ⟨['a'], 1, false, 1⟩ mergeSorter
          [(.write ['x'], { okIo with scan := some [['a'], rotatedBase ['a'] 0] })]
          (stateOf (rotatingFileSinkInit ⟨['a'], 1, false, 1⟩ okIo (Sink.fresh fun _ => none)))).dir n ≠ none ↔
        n ∈ (lastN 1 (rotationTimes 1 (Dir.bytes (fun _ => none) ['a']).length
          [(.write ['x'], { okIo with scan := some [['a'], rotatedBase ['a'] 0] })])).map
          (rotatedBase ['a'])) :=
  callRun_retention ⟨['a'], 1, false, 1⟩ mergeSorter (by decide) okIo (fun _ => none)
    (s := stateOf (rotatingFileSinkInit ⟨['a'], 1, false, 1⟩ okIo (Sink.fresh fun _ => none))) rfl rfl
    (fun _ _ => rfl) _ (List.pairwise_singleton _ _) (by simp only [List.mem_singleton, forall_eq]; decide)
    ⟨⟨⟨rfl, rfl, fun _ => rfl, rfl, rfl, rfl, rfl, rfl⟩, fun _ => rfl,
      ⟨_, rfl, List.nodup_cons.mpr ⟨by simpa using (rotatedBase_ne_base (t := 0) (by decide) : rotatedBase ['a'] 0 ≠ ['a']).symm,
        List.nodup_singleton _⟩, by simp [okIo], fun m hm => by
          have hm' : (if m = ['a'] then some (Node.regular []) else none) ≠ none := hm
          split at hm'
          · simp [*]
          · exact absurd rfl hm'⟩⟩, trivial⟩

end SimLogger
