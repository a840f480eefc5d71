import BookExport.Proofs.QueueHistory
import BookExport.Proofs.UntimedQueues
import BookExport.Queue.Desk

/-! Every claim comes with a token of its own, and no job is claimed twice: among all that were handed out, the token of the
active job belongs to no other job, whoever has cancelled copies meanwhile. -/

namespace BookExport.Proofs.HandedTokens
open QueuePositions QueueHistory

/-- All that one call can do to the tokens and to the active job, and what it hands out. -/
inductive Hands (before after : Queue) : List Claim → Prop where
  | nobody (issued : after.signals.issued = before.signals.issued)
      (active : ∀ held, after.active = some held →
        ∃ old, before.active = some old ∧ old.job.id = held.job.id ∧ old.token = held.token) : Hands before after []
  | somebody (claim : Claim) (token : claim.token.number = before.signals.issued)
      (issued : after.signals.issued = before.signals.issued + 1)
      (active : after.active = some ⟨claim.job, claim.token⟩) : Hands before after [claim]

theorem Hands.still {before after : Queue} (issued : after.signals.issued = before.signals.issued)
    (active : after.active = before.active) : Hands before after [] := by
  apply Hands.nobody issued
  intro held same
  exact ⟨held, active ▸ same, rfl, rfl⟩

theorem Hands.freed {before after : Queue} (issued : after.signals.issued = before.signals.issued)
    (free : after.active = none) : Hands before after [] := by
  apply Hands.nobody issued
  intro held same
  rw [free] at same
  cases same

private theorem withdraw_hands (q : Queue) (id : JobId) (now : Timestamp) : Hands q (q.withdraw id now).state [] := by
  unfold Queue.withdraw
  split <;> exact .still rfl rfl

private theorem requestCancel_hands (q : Queue) (active : ActiveJob) (held : q.active = some active) :
    Hands q (q.requestCancel active).state [] := by
  apply Hands.nobody (UntimedQueues.issued_cancel q.signals active.token)
  intro marked same
  obtain rfl := Option.some.inj same
  exact ⟨active, held, rfl, rfl⟩

private theorem cancel_hands (q : Queue) (target : Option JobId) (now : Timestamp) :
    Hands q (q.cancel target now).state [] := by
  unfold Queue.cancel
  split
  next => exact .still rfl rfl
  next active held => exact requestCancel_hands q active held
  next id active held =>
    split
    · exact requestCancel_hands q active held
    · exact withdraw_hands q id now
  next id free => exact withdraw_hands q id now

private theorem next_hands (q : Queue) (now : Timestamp) : Hands q (q.next now).state (q.next now).answer.toList := by
  unfold Queue.next
  split
  · exact .somebody _ rfl rfl rfl
  · exact .still rfl rfl

private theorem waitNext_hands (q : Queue) (now : Timestamp) :
    Hands q (q.waitNext now).state (q.waitNext now).answer.toList := by
  cases answer : (q.waitNext now).answer with
  | none =>
    obtain ⟨bell, same⟩ := UntimedQueues.waitNext_idle answer
    rw [same]
    exact .still rfl rfl
  | some claim =>
    obtain ⟨-, -, -, -, token, -, active, signals⟩ := UntimedQueues.waitNext_claims answer
    exact .somebody claim (by rw [token]) (by rw [signals]) active

theorem call_hands (q : Queue) (call : QueueCall) (now : Timestamp) :
    Hands q (q.step call now).state (q.handedOut call now) := by
  cases call with
  | enqueue | stopWaiting | shutDown => exact .still rfl rfl
  | cancel target => exact cancel_hands q target now
  | next => exact next_hands q now
  | waitNext => exact waitNext_hands q now
  | finishActive id =>
    simp only [Queue.step, Queue.finishActive]
    split
    · exact .freed rfl rfl
    · exact .still rfl rfl

/-- Whoever is handed out is in the books. -/
private theorem ids_handedOut (q : Queue) (call : QueueCall) (now : Timestamp) :
    (q.handedOut call now).map (·.job.id) = (q.step call now).answer.claimed := by
  have listed (answer : Option Claim) : answer.toList.map (·.job.id) = Queue.claimedBy answer := by
    cases answer <;> rfl
  cases call with
  | next | waitNext => exact listed _
  | enqueue | cancel | stopWaiting | shutDown | finishActive => rfl

/-- A desk whose books balance, where tokens are numbered as they are handed out. -/
structure Kept (books : Ledger) (d : Desk) : Prop where
  numbered : (lineOf d.queue).Numbered
  balanced : Balanced books (waitingIds d.queue) d.queue.activeId?
  claimed : d.claims.map (·.job.id) = books.claimed
  tokens : d.claims.map (·.token.number) = List.range d.queue.signals.issued
  active : ∀ held, d.queue.active = some held →
    ∃ claim ∈ d.claims, claim.job.id = held.job.id ∧ claim.token = held.token

theorem Kept.call {books : Ledger} {d : Desk} (kept : Kept books d) (call : QueueCall) (now : Timestamp)
    (fresh : (books.entered ++ call.accepted).Nodup) :
    Kept (books ++ (d.queue.step call now).answer) (d.step (.queue call) now) := by
  have entered : (books.entered ++ (d.queue.step call now).answer.entered).Nodup := by rwa [entered_step]
  refine ⟨numbered_call kept.numbered call now, kept.balanced.booking (step_books d.queue call now) entered, ?_, ?_, ?_⟩
  · rw [Desk.step, List.map_append, ids_handedOut, kept.claimed, Ledger.claimed_append]
  · have hands := call_hands d.queue call now
    simp only [Desk.step, List.map_append, kept.tokens]
    generalize d.queue.handedOut call now = claims at hands ⊢
    cases hands with
    | nobody issued => rw [issued, List.map_nil, List.append_nil]
    | somebody claim token issued => rw [issued, List.range_succ, List.map_singleton, token]
  · intro held same
    have hands := call_hands d.queue call now
    simp only [Desk.step] at same ⊢
    generalize d.queue.handedOut call now = claims at hands ⊢
    cases hands with
    | nobody issued active =>
      obtain ⟨old, before, sameId, sameToken⟩ := active held same
      obtain ⟨claim, member, about, handed⟩ := kept.active old before
      exact ⟨claim, List.mem_append_left _ member, about.trans sameId, handed.trans sameToken⟩
    | somebody claim token issued active =>
      obtain rfl := Option.some.inj (active.symm.trans same)
      exact ⟨claim, List.mem_append_right _ List.mem_cons_self, rfl, rfl⟩

theorem Kept.cancelCopy {books : Ledger} {d : Desk} (kept : Kept books d) (index : Nat) :
    Kept books (d.cancelCopy index) := by
  unfold Desk.cancelCopy
  split
  next claim handed =>
    refine { kept with tokens := ?_ }
    rw [UntimedQueues.issued_cancel]
    exact kept.tokens
  next => exact kept

theorem Kept.run {books : Ledger} {d : Desk} (kept : Kept books d) (calls : List (DeskCall × Timestamp))
    (fresh : (books.entered ++ calls.flatMap (·.1.accepted)).Nodup) : ∃ books, Kept books (d.run calls) := by
  induction calls generalizing books d with
  | nil => exact ⟨books, kept⟩
  | cons made rest ih =>
    obtain ⟨call, now⟩ := made
    rw [List.flatMap_cons, ← List.append_assoc] at fresh
    cases call with
    | queue call =>
      have next := kept.call call now (List.nodup_append.mp fresh).1
      apply ih next
      rwa [Ledger.entered_append, entered_step]
    | cancelCopy index =>
      apply ih (kept.cancelCopy index)
      simpa [DeskCall.accepted] using fresh

theorem Kept.initial : Kept {} {} :=
  ⟨trivial, ⟨rfl, rfl, by simp, .nil⟩, rfl, rfl, fun _ same => nomatch same⟩

theorem kept_run (calls : List (DeskCall × Timestamp)) (fresh : (calls.flatMap (·.1.accepted)).Nodup) :
    ∃ books, Kept books (Desk.run {} calls) :=
  Kept.initial.run calls (by simpa using fresh)

/-- The places of those who wait do not depend on ids or tokens. -/
theorem numbered_desk {d : Desk} (numbered : (lineOf d.queue).Numbered) (calls : List (DeskCall × Timestamp)) :
    (lineOf (d.run calls).queue).Numbered := by
  induction calls generalizing d with
  | nil => exact numbered
  | cons made rest ih =>
    obtain ⟨call, now⟩ := made
    apply ih
    cases call with
    | queue call => exact numbered_call numbered call now
    | cancelCopy index =>
      simp only [Desk.step, Desk.cancelCopy]
      split <;> exact numbered

section
variable {books : Ledger} {d : Desk} {held : ActiveJob}

/-- Nobody is claimed twice. -/
theorem Kept.distinct (kept : Kept books d) : (d.claims.map (·.job.id)).Nodup := by
  rw [kept.claimed]
  apply List.Nodup.sublist (List.sublist_append_left _ (waitingIds d.queue))
  rw [kept.balanced.order]
  exact kept.balanced.distinct.filter _

/-- A token that was handed out is the one of the active job just if it was handed out with that job. -/
theorem Kept.token_iff (kept : Kept books d) (active : d.queue.active = some held) {claim : Claim}
    (member : claim ∈ d.claims) : claim.token.number = held.token.number ↔ claim.job.id = held.job.id := by
  obtain ⟨own, inside, about, handed⟩ := kept.active held active
  have numbers : (d.claims.map (·.token.number)).Nodup := kept.tokens ▸ List.nodup_range
  rw [← about, ← handed]
  refine ⟨fun same => ?_, fun same => ?_⟩
  · rw [List.inj_on_of_nodup_map numbers member inside same]
  · rw [List.inj_on_of_nodup_map kept.distinct member inside same]

/-- Whoever waits is not active and waits once. -/
theorem Kept.apart (kept : Kept books d) : (d.queue.activeId?.toList ++ waitingIds d.queue).Nodup :=
  (List.nodup_append.mp kept.balanced.apart).2.1

end

end BookExport.Proofs.HandedTokens
