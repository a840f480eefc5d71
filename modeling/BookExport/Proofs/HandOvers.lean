import BookExport.Proofs.HandedTokens

/-! A claim takes the first of the line to the active place, which is the place before the others already, so nobody else
moves. Once the active place is free again, everybody moves, each by one place. -/

namespace BookExport.Proofs.HandOvers
open QueuePositions QueueHistory HandedTokens

/-- The active place is freed, and all who wait move up, of which each is told. -/
structure Freed (q : Queue) (shifted : List Job) (now : Timestamp) (o : Outcome Queue (List Job)) : Prop where
  moved : List.Forall₂ MovedUp q.pending shifted
  outcome : o = ⟨{ q with pending := shifted, active := none, bell := q.bell.ring }, shifted,
    shifted.map (Snapshot.queued · now)⟩
  told : List.Forall₂ TellsPlace q.pending o.published

private theorem finishActive_shifts {q : Queue} (numbered : (lineOf q).Numbered) {id : JobId} (held : q.activeId? = some id)
    (now : Timestamp) : ∃ shifted, Freed q shifted now (q.finishActive id now) := by
  have ordered : InOrder 1 q.pending := by
    simpa [Line.Numbered, Line.first, lineOf, held] using numbered
  rw [finishActive_eq numbered held now]
  exact ⟨_, ordered.movedUp, rfl, tellsPlace_queued ordered.movedUp now⟩

/-- Whatever was called on a queue: a claim fails just if a job is active or none waits, and then changes nothing; when it
succeeds, nobody else moves. When the active job is released, all who wait move, each by one place; the release of any other
job changes nothing. -/
theorem hand_overs_shift (calls : List (DeskCall × Timestamp)) (now : Timestamp) :
    let q := (Desk.run {} calls).queue
    ((q.next now).answer = none ↔ q.active.isSome ∨ q.pending = []) ∧
    ((q.next now).answer = none → q.next now = ⟨q, none, []⟩) ∧
    (∀ claim, (q.next now).answer = some claim → claim.shifted = [] ∧
      ∃ job rest, q.pending = job :: rest ∧ claim.job = job.start now ∧ q.next now =
        ⟨{ q with
            pending := rest
            active := some ⟨claim.job, claim.token⟩
            signals := (q.signals.issue true).2 }, some claim, []⟩) ∧
    (∀ id, q.activeId? = some id → ∃ shifted, Freed q shifted now (q.finishActive id now)) ∧
    ∀ id, q.activeId? ≠ some id → q.finishActive id now = ⟨q, [], []⟩ := by
  intro q
  have numbered : (lineOf q).Numbered := numbered_desk (d := {}) trivial calls
  have released := fun id (held : q.activeId? = some id) => finishActive_shifts numbered held now
  have ignored := fun id (other : q.activeId? ≠ some id) => finishActive_other other now
  by_cases busy : q.active.isSome ∨ q.pending = []
  · rw [next_refused busy.symm now]
    exact ⟨iff_of_true rfl busy, fun _ => rfl, fun _ answer => (nomatch answer), released, ignored⟩
  · obtain ⟨nobody, somebody⟩ := not_or.mp busy
    obtain ⟨job, rest, waited⟩ := List.exists_cons_of_ne_nil somebody
    rw [next_eq numbered (Option.not_isSome_iff_eq_none.mp nobody) waited now]
    refine ⟨iff_of_false (fun answer => nomatch answer) busy, fun answer => (nomatch answer), ?_, released, ignored⟩
    intro claim answer
    obtain rfl := Option.some.inj answer
    exact ⟨rfl, job, rest, waited, rfl, rfl⟩

theorem hand_overs_shift_three :
    let calls : List (DeskCall × Timestamp) :=
      [.queue (.enqueue ⟨"a"⟩ default), .queue (.enqueue ⟨"b"⟩ default), .queue (.enqueue ⟨"c"⟩ default)].map (·, default)
    let waits := (Desk.run {} calls).queue
    let works := (Desk.run {} (calls ++ [(.queue .next, default)])).queue
    (∃ claim, (waits.next default).answer = some claim ∧ claim.shifted = []) ∧
      works.next default = ⟨works, none, []⟩ ∧ works.finishActive ⟨"b"⟩ default = ⟨works, [], []⟩ ∧
      (∃ shifted, Freed works shifted default (works.finishActive ⟨"a"⟩ default)) ∧
      (works.finishActive ⟨"a"⟩ default).published.map (fun shown => (shown.jobId, shown.status, shown.queuePosition)) =
        [(⟨"b"⟩, .queued, some 0), (⟨"c"⟩, .queued, some 1)] := by
  intro calls waits works
  obtain ⟨-, -, claims, -⟩ := hand_overs_shift calls default
  obtain ⟨-, refused, -, released, ignored⟩ := hand_overs_shift (calls ++ [(.queue .next, default)]) default
  have given : ∃ claim, (waits.next default).answer = some claim := ⟨_, rfl⟩
  obtain ⟨claim, answer⟩ := given
  exact ⟨⟨claim, answer, (claims claim answer).1⟩, refused rfl, ignored ⟨"b"⟩ (by decide), released ⟨"a"⟩ rfl, by decide⟩

end BookExport.Proofs.HandOvers
