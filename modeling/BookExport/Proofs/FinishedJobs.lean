import BookExport.Proofs.LatestSnapshots

/-! Which finished jobs are remembered. A snapshot makes one job too many at most, so that one at most is forgotten: the
first in the order of finished jobs, or the second when the headline is about the first. From this the bound on the
finished jobs follows, and that the order lists exactly those of them that are remembered. -/

namespace BookExport.Proofs.FinishedJobs
open BroadcasterMemory LatestSnapshots

section
variable {headline : Option JobId} {keep : Nat} {id : JobId} {order rest : List JobId}

theorem trimFinished_fits (room : order.length ≤ keep) (rounds : Nat) :
    Broadcaster.trimFinished headline keep rounds order = (order, []) := by
  cases rounds <;> simp [Broadcaster.trimFinished, room]

theorem trimFinished_hidden (long : keep ≤ rest.length) (hidden : headline ≠ some id) (rounds : Nat) :
    Broadcaster.trimFinished headline keep (rounds + 1) (id :: rest) =
      ((Broadcaster.trimFinished headline keep rounds rest).1,
        id :: (Broadcaster.trimFinished headline keep rounds rest).2) := by
  have tooLong : ¬(id :: rest).length ≤ keep := by simpa using Nat.lt_succ_of_le long
  rw [Broadcaster.trimFinished, if_neg tooLong]
  simp [hidden]

theorem trimFinished_passed (long : keep ≤ rest.length) (shown : headline = some id) (more : rest ≠ [])
    (rounds : Nat) : Broadcaster.trimFinished headline keep (rounds + 1) (id :: rest) =
      Broadcaster.trimFinished headline keep rounds (rest ++ [id]) := by
  have tooLong : ¬(id :: rest).length ≤ keep := by simpa using Nat.lt_succ_of_le long
  rw [Broadcaster.trimFinished, if_neg tooLong]
  simp [shown, more]

end

/-- What trimming makes of an order with one job too many at most: the order that is kept, and who is forgotten. -/
inductive Trimmed (headline : Option JobId) (keep : Nat) : List JobId → List JobId → List JobId → Prop where
  | fits {order : List JobId} (room : order.length ≤ keep) : Trimmed headline keep order order []
  | first {id : JobId} {rest : List JobId} (full : rest.length = keep) (hidden : headline ≠ some id) :
      Trimmed headline keep (id :: rest) rest [id]
  /-- The job of the headline is passed over and moves to the end, and the next one goes. -/
  | second {shown id : JobId} {rest : List JobId} (full : rest.length + 1 = keep) (passed : headline = some shown)
      (hidden : headline ≠ some id) : Trimmed headline keep (shown :: id :: rest) (rest ++ [shown]) [id]

/-- The rounds that trimming has are enough: it never stops before the order fits. -/
private theorem trimFinished_trims (headline : Option JobId) {keep : Nat} (positive : 0 < keep) {order : List JobId}
    (distinct : order.Nodup) (fewMore : order.length ≤ keep + 1) :
    Trimmed headline keep order (Broadcaster.trimFinished headline keep (2 * (order.length - keep)) order).1
      (Broadcaster.trimFinished headline keep (2 * (order.length - keep)) order).2 := by
  by_cases room : order.length ≤ keep
  · rw [trimFinished_fits room]
    exact .fits room
  · have full : order.length = keep + 1 := by omega
    have rounds : 2 * (order.length - keep) = 2 := by omega
    rw [rounds]
    match order, full with
    | [], full => simp at full
    | [_], full => exact absurd (Nat.succ.inj full) (Nat.ne_of_lt positive)
    | first :: second :: rest, full =>
      have fits : rest.length + 1 = keep := Nat.succ.inj full
      by_cases passed : headline = some first
      · have hidden : headline ≠ some second := by
          rw [passed]
          intro same
          exact (List.nodup_cons.mp distinct).1 (by simp [Option.some.inj same])
        rw [trimFinished_passed (by simp [fits]) passed (by simp), List.cons_append,
          trimFinished_hidden (by simp [fits]) hidden, trimFinished_fits (by simp [fits])]
        exact .second fits passed hidden
      · rw [trimFinished_hidden (by simp [fits]) passed, trimFinished_fits (by simp [fits])]
        exact .first fits passed

section
variable {headline : Option JobId} {keep : Nat} {order kept forgotten : List JobId}

/-- Nobody gets lost and nobody is kept twice. -/
theorem Trimmed.perm (trimmed : Trimmed headline keep order kept forgotten) : (forgotten ++ kept).Perm order := by
  cases trimmed with
  | fits => exact .refl _
  | first => exact .refl _
  | @second shown id rest =>
    have back : (id :: (rest ++ [shown])).Perm (id :: shown :: rest) := (List.perm_append_singleton shown rest).cons id
    exact back.trans (.swap shown id rest)

theorem Trimmed.length_le (trimmed : Trimmed headline keep order kept forgotten) : kept.length ≤ keep := by
  cases trimmed with
  | fits room => exact room
  | first full => exact Nat.le_of_eq full
  | second full => simpa using Nat.le_of_eq full

theorem Trimmed.spares (trimmed : Trimmed headline keep order kept forgotten) :
    ∀ id ∈ forgotten, headline ≠ some id := by
  cases trimmed with
  | fits => simp
  | first full hidden => simpa using hidden
  | second full passed hidden => simpa using hidden

theorem Trimmed.nodup (trimmed : Trimmed headline keep order kept forgotten) (distinct : order.Nodup) :
    kept.Nodup ∧ ∀ id ∈ kept, id ∉ forgotten := by
  obtain ⟨-, apart, different⟩ := List.nodup_append.mp (trimmed.perm.nodup_iff.mpr distinct)
  exact ⟨apart, fun id stays goes => different id goes id stays rfl⟩

/-- An order in which everybody may stand before a job that is passed over stays one. -/
theorem Trimmed.pairwise {R : JobId → JobId → Prop} (trimmed : Trimmed headline keep order kept forgotten)
    (ordered : order.Pairwise R) (passed : ∀ shown id next rest, order = shown :: id :: next :: rest →
      headline = some shown → forgotten = [id] → ∀ other ∈ order, R other shown) : kept.Pairwise R := by
  cases trimmed with
  | fits => exact ordered
  | first => exact (List.pairwise_cons.mp ordered).2
  | @second shown id rest full about hidden =>
    obtain ⟨-, behind⟩ := List.pairwise_cons.mp ordered
    apply List.pairwise_append.mpr
    refine ⟨(List.pairwise_cons.mp behind).2, List.pairwise_singleton .., ?_⟩
    intro other member last ending
    rw [List.mem_singleton.mp ending]
    cases rest with
    | nil => simp at member
    | cons next rest =>
      apply passed shown id next rest rfl about rfl
      exact List.mem_cons_of_mem _ (List.mem_cons_of_mem _ member)

/-- Whoever is forgotten was ahead of all who stay, the job of the headline apart. -/
theorem Trimmed.ahead {R : JobId → JobId → Prop} (trimmed : Trimmed headline keep order kept forgotten)
    (ordered : order.Pairwise R) {id other : JobId} (goes : id ∈ forgotten) (stays : other ∈ kept)
    (hidden : headline ≠ some other) : R id other := by
  cases trimmed with
  | fits => simp at goes
  | first =>
    rw [List.mem_singleton.mp goes]
    exact (List.pairwise_cons.mp ordered).1 other stays
  | second full passed =>
    rw [List.mem_singleton.mp goes]
    rcases List.mem_append.mp stays with behind | last
    · exact (List.pairwise_cons.mp (List.pairwise_cons.mp ordered).2).1 other behind
    · rw [List.mem_singleton.mp last] at hidden
      exact absurd passed hidden

theorem Trimmed.mem_order (trimmed : Trimmed headline keep order kept forgotten) {id : JobId} :
    id ∈ order ↔ id ∈ forgotten ∨ id ∈ kept := by
  rw [← trimmed.perm.mem_iff, List.mem_append]

end

/-- What a published snapshot does to the finished jobs: the order that is left, and who is forgotten. -/
inductive Retires (b : Broadcaster) (s : Snapshot) : List JobId → List JobId → Prop where
  | rests (goesOn : s.status.isTerminal = false ∨ b.retention = 0) : Retires b s b.finished []
  | again (ends : s.status.isTerminal = true) (listed : s.jobId ∈ b.finished) : Retires b s b.finished []
  | enters {kept forgotten : List JobId} (ends : s.status.isTerminal = true) (limited : 0 < b.retention)
      (unlisted : s.jobId ∉ b.finished) (trimmed : Trimmed (Broadcaster.headlineAfter b.headline s) b.retention
        (b.finished ++ [s.jobId]) kept forgotten) : Retires b s kept forgotten

theorem nodup_enlisted {finished : List JobId} {id : JobId} (distinct : finished.Nodup) (unlisted : id ∉ finished) :
    (finished ++ [id]).Nodup := by
  apply List.nodup_append.mpr
  refine ⟨distinct, by simp, ?_⟩
  intro other old new entering same
  rw [List.mem_singleton.mp entering] at same
  exact unlisted (same ▸ old)

private theorem lookup_filter (forgotten : List JobId) (latest : List (JobId × Snapshot)) (id : JobId) :
    (latest.filter fun (key, _) => key ∉ forgotten).lookup id = if id ∈ forgotten then none else latest.lookup id := by
  split
  next gone => exact lookup_forgotten _ _ gone
  next kept => exact lookup_remembered _ _ kept

theorem publish_retires {b : Broadcaster} (distinct : b.finished.Nodup) (bounded : b.finished.length ≤ b.retention)
    (s : Snapshot) : ∃ forgotten, Retires b s (b.publish s).finished forgotten ∧ ∀ id, (b.publish s).latest.lookup id =
      if id ∈ forgotten then none else if id = s.jobId then some s else b.latest.lookup id := by
  unfold Broadcaster.publish
  simp only
  split
  next ends =>
    unfold Broadcaster.retire
    simp only
    split
    next unlimited => exact ⟨[], .rests (Or.inr unlimited), fun id => lookup_setLatest ..⟩
    next limited =>
      have positive := Nat.pos_of_ne_zero limited
      split
      next listed =>
        rw [trimFinished_fits bounded]
        refine ⟨[], .again ends listed, fun id => ?_⟩
        exact (lookup_filter ..).trans (by rw [lookup_setLatest])
      next unlisted =>
        have trimmed := trimFinished_trims (Broadcaster.headlineAfter b.headline s) positive
          (nodup_enlisted distinct unlisted) (by simpa using bounded)
        refine ⟨_, .enters ends positive unlisted trimmed, fun id => ?_⟩
        exact (lookup_filter ..).trans (by rw [lookup_setLatest])
  next goesOn => exact ⟨[], .rests (Or.inl (by simpa using goesOn)), fun id => lookup_setLatest ..⟩

section
variable {b : Broadcaster} {s : Snapshot} {kept forgotten : List JobId}

theorem Retires.nodup (retires : Retires b s kept forgotten) (distinct : b.finished.Nodup) : kept.Nodup := by
  cases retires with
  | rests | again => exact distinct
  | enters ends limited unlisted trimmed => exact (trimmed.nodup (nodup_enlisted distinct unlisted)).1

theorem Retires.length_le (retires : Retires b s kept forgotten) (bounded : b.finished.length ≤ b.retention) :
    kept.length ≤ b.retention := by
  cases retires with
  | rests | again => exact bounded
  | enters ends limited unlisted trimmed => exact trimmed.length_le

theorem Retires.spares (retires : Retires b s kept forgotten) :
    ∀ id ∈ forgotten, Broadcaster.headlineAfter b.headline s ≠ some id := by
  cases retires with
  | rests | again => simp
  | enters ends limited unlisted trimmed => exact trimmed.spares

theorem Retires.nobody (retires : Retires b s kept forgotten) (unlimited : b.retention = 0) : forgotten = [] := by
  cases retires with
  | rests | again => rfl
  | enters ends limited => exact absurd unlimited (Nat.ne_of_gt limited)

/-- Whoever finished or finishes now is kept, unless it is forgotten. -/
theorem Retires.mem_kept (retires : Retires b s kept forgotten) (distinct : b.finished.Nodup) {id : JobId} :
    id ∈ kept ↔ id ∉ forgotten ∧
      (id ∈ b.finished ∨ id = s.jobId ∧ s.status.isTerminal = true ∧ 0 < b.retention) := by
  cases retires with
  | rests goesOn =>
    rcases goesOn with goesOn | unlimited
    · simp [goesOn]
    · simp [unlimited]
  | again ends listed =>
    simp only [List.not_mem_nil, not_false_eq_true, true_and]
    refine ⟨Or.inl, ?_⟩
    rintro (old | ⟨rfl, -⟩)
    · exact old
    · exact listed
  | enters ends limited unlisted trimmed =>
    have apart := (trimmed.nodup (nodup_enlisted distinct unlisted)).2 id
    have either : id ∈ b.finished ++ [s.jobId] ↔ id ∈ forgotten ∨ id ∈ kept := trimmed.mem_order
    simp only [List.mem_append, List.mem_singleton] at either
    simp only [ends, limited, and_true, either]
    constructor
    · exact fun stays => ⟨apart stays, Or.inr stays⟩
    · rintro ⟨stays, goes | kept⟩
      · exact absurd goes stays
      · exact kept

end

/-- Finished jobs are listed once, no more of them than may be remembered, and exactly those that are remembered; and
the headline shows something. -/
structure Orderly (b : Broadcaster) : Prop where
  distinct : b.finished.Nodup
  bounded : b.finished.length ≤ b.retention
  remembered : ∀ id ∈ b.finished, (b.latest.lookup id).isSome = true
  listed : 0 < b.retention → ∀ id s, b.latest.lookup id = some s → s.status.isTerminal = true → id ∈ b.finished
  shown : ∀ id, b.headline = some id → (b.latest.lookup id).isSome = true

theorem Orderly.initial {b : Broadcaster} (latest : b.latest = []) (headline : b.headline = none)
    (finished : b.finished = []) : Orderly b :=
  ⟨by simp [finished], by simp [finished], by simp [finished], by simp [latest], by simp [headline]⟩

theorem Orderly.memory {a b : Broadcaster} (orderly : Orderly b) (same : SameMemory a b) : Orderly a := by
  obtain ⟨retention, latest, headline, finished⟩ := same
  constructor
  · exact finished ▸ orderly.distinct
  · exact finished ▸ retention ▸ orderly.bounded
  · exact finished ▸ latest ▸ orderly.remembered
  · exact finished ▸ retention ▸ latest ▸ orderly.listed
  · exact headline ▸ latest ▸ orderly.shown

@[simp] theorem retention_publish (b : Broadcaster) (s : Snapshot) : (b.publish s).retention = b.retention := by
  unfold Broadcaster.publish Broadcaster.retire
  simp only
  split
  · split <;> rfl
  · rfl

theorem retention_publishAll (b : Broadcaster) (log : List Snapshot) : (b.publishAll log).retention = b.retention := by
  induction log generalizing b with
  | nil => rfl
  | cons s rest ih => exact (ih (b.publish s)).trans (retention_publish b s)

theorem Orderly.publish {b : Broadcaster} (orderly : Orderly b) (s : Snapshot) : Orderly (b.publish s) := by
  obtain ⟨forgotten, retires, found⟩ := publish_retires orderly.distinct orderly.bounded s
  have known {id : JobId} (stays : id ∉ forgotten) (before : id = s.jobId ∨ (b.latest.lookup id).isSome = true) :
      ((b.publish s).latest.lookup id).isSome = true := by
    rw [found, if_neg stays]
    split
    · rfl
    · exact before.resolve_left ‹_›
  refine ⟨retires.nodup orderly.distinct, ?_, ?_, ?_, ?_⟩
  · rw [retention_publish]
    exact retires.length_le orderly.bounded
  · intro id member
    obtain ⟨stays, old | ⟨new, -⟩⟩ := (retires.mem_kept orderly.distinct).mp member
    · exact known stays (Or.inr (orderly.remembered id old))
    · exact known stays (Or.inl new)
  · intro limited id t held ends
    rw [retention_publish] at limited
    rw [found] at held
    split at held
    · cases held
    next stays =>
      apply (retires.mem_kept orderly.distinct).mpr
      refine ⟨stays, ?_⟩
      split at held
      next new =>
        cases held
        exact Or.inr ⟨new, ends, limited⟩
      next => exact Or.inl (orderly.listed limited id t held ends)
  · intro id shown
    rw [headline_publish] at shown
    have stays : id ∉ forgotten := fun goes => retires.spares id goes shown
    apply known stays
    unfold Broadcaster.headlineAfter at shown
    split at shown
    · exact Or.inl (Option.some.inj shown).symm
    · exact Or.inr (orderly.shown id shown)

theorem Orderly.publishAll {b : Broadcaster} (orderly : Orderly b) (log : List Snapshot) :
    Orderly (b.publishAll log) := by
  induction log generalizing b with
  | nil => exact orderly
  | cons s rest ih => exact ih (orderly.publish s)

theorem headline_isSome (b : Broadcaster) {log : List Snapshot} (told : b.headline.isSome = true ∨ log ≠ []) :
    (b.publishAll log).headline.isSome = true := by
  induction log generalizing b with
  | nil => exact told.resolve_right (by simp)
  | cons s rest ih =>
    apply ih
    left
    rw [headline_publish, Broadcaster.headlineAfter]
    cases b.headline with
    | none => rfl
    | some id => split <;> rfl

private theorem unlimited_keeps {b : Broadcaster} (orderly : Orderly b) (unlimited : b.retention = 0) (log : List Snapshot)
    {id : JobId} (known : (b.latest.lookup id).isSome = true) :
    ((b.publishAll log).latest.lookup id).isSome = true := by
  induction log generalizing b with
  | nil => exact known
  | cons s rest ih =>
    apply ih (orderly.publish s) (by rwa [retention_publish])
    obtain ⟨forgotten, retires, found⟩ := publish_retires orderly.distinct orderly.bounded s
    rw [found, retires.nobody unlimited]
    simp only [List.not_mem_nil, ↓reduceIte]
    split
    · rfl
    · exact known

/-- Whatever is published about whichever jobs: with a limit, the finished jobs that are remembered are those of an order
without repetitions that is no longer than the limit; without one, nobody is ever forgotten; and once anything was
published, the headline shows a snapshot for good. -/
theorem memory_is_orderly (buffer retention : Nat) (log : List Snapshot) :
    let b := Broadcaster.publishAll { buffer, retention } log
    (1 ≤ retention →
      b.finished.Nodup ∧ b.finished.length ≤ retention ∧
      (∀ id ∈ b.finished, ∃ s, b.latest.lookup id = some s) ∧
      (∀ id s, b.latest.lookup id = some s → s.status.isTerminal = true → id ∈ b.finished) ∧
      ∀ ids : List JobId, ids.Nodup → (∀ id ∈ ids, ∃ s, b.poll (some id) = some s ∧ s.status.isTerminal = true) →
        ids.length ≤ retention) ∧
    (retention = 0 → ∀ more id s, b.latest.lookup id = some s → ∃ t, (b.publishAll more).latest.lookup id = some t) ∧
    (log ≠ [] → ∃ id s, b.headline = some id ∧ b.latest.lookup id = some s ∧ b.poll none = some s) := by
  intro b
  have orderly : Orderly b := (Orderly.initial (b := { buffer, retention }) rfl rfl rfl).publishAll log
  have limit : b.retention = retention := retention_publishAll _ log
  refine ⟨?_, ?_, ?_⟩
  · intro positive
    have bounded : b.finished.length ≤ retention := limit ▸ orderly.bounded
    have listed := orderly.listed (limit ▸ positive)
    refine ⟨orderly.distinct, bounded, ?_, listed, ?_⟩
    · intro id member
      exact Option.isSome_iff_exists.mp (orderly.remembered id member)
    · intro ids distinct finished
      have inside : ids ⊆ b.finished := by
        intro id member
        obtain ⟨s, polled, ends⟩ := finished id member
        exact listed id s polled ends
      exact Nat.le_trans (distinct.length_le_of_subset inside) bounded
  · intro unlimited more id s held
    apply Option.isSome_iff_exists.mp
    exact unlimited_keeps orderly (limit.trans unlimited) more (Option.isSome_iff_exists.mpr ⟨s, held⟩)
  · intro told
    obtain ⟨id, shown⟩ := Option.isSome_iff_exists.mp (headline_isSome { buffer, retention } (Or.inr told))
    obtain ⟨s, held⟩ := Option.isSome_iff_exists.mp (orderly.shown id shown)
    have headline : b.headline = some id := shown
    exact ⟨id, s, headline, held, by simp [Broadcaster.poll, headline, held]⟩

def inStatus (name : String) (status : Status) : Snapshot :=
  { (default : Snapshot) with jobId := ⟨name⟩, status }

/-- The first job ends, and is told about as active and as ended once more, while two others end beside it. -/
def endedAgain : List Snapshot :=
  [inStatus "a" .starting, inStatus "a" .completed, inStatus "b" .cancelled, inStatus "a" .starting,
    inStatus "c" .cancelled, inStatus "a" .failed]

theorem memory_is_orderly_ended_again :
    (Broadcaster.publishAll { retention := 2 } endedAgain).finished = [⟨"c"⟩, ⟨"a"⟩] ∧
      ([⟨"c"⟩, ⟨"a"⟩] : List JobId).length ≤ 2 ∧
      (∃ s, (Broadcaster.publishAll { retention := 0 } endedAgain).latest.lookup ⟨"b"⟩ = some s) ∧
      ∃ s, (Broadcaster.publishAll { retention := 2 } endedAgain).poll none = some s := by
  have listed : (Broadcaster.publishAll { retention := 2 } endedAgain).finished = [⟨"c"⟩, ⟨"a"⟩] := by decide
  obtain ⟨limited, -, shown⟩ := memory_is_orderly 32 2 endedAgain
  obtain ⟨-, unlimited, -⟩ := memory_is_orderly 32 0 (endedAgain.take 3)
  obtain ⟨-, bounded, -⟩ := limited (by decide)
  obtain ⟨id, s, -, -, polled⟩ := shown (by decide)
  refine ⟨listed, ?_, unlimited rfl (endedAgain.drop 3) ⟨"b"⟩ (inStatus "b" .cancelled) rfl, s, polled⟩
  rwa [listed] at bounded

end BookExport.Proofs.FinishedJobs
