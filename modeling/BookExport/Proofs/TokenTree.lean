import BookExport.Proofs.ExactCancels
import BookExport.Proofs.QueueMoves
import BookExport.Queue.Circulation
import Mathlib.Data.List.Induction

/-! The token of a claimed job is cancelled by the shutdown, by a request to cancel the job while it is active, and by
whoever has a copy of it; by nothing else, and for good. However many jobs are claimed before and after, no token is
cancelled for another one. -/

namespace BookExport.Proofs.TokenTree
open QueuePositions QueueHistory HandedTokens

/-- A call asks an active job to stop. -/
structure Asks (q : Queue) (call : QueueCall) (held : ActiveJob) : Prop where
  active : q.active = some held
  request : call = .cancel none ∨ call = .cancel (some held.job.id)

theorem Asks.quiet {q : Queue} {call : QueueCall} {held : ActiveJob} (asked : Asks q call held) : call ≠ .shutDown := by
  rintro rfl
  rcases asked.request with same | same <;> cases same

/-- Nobody was cancelled, and nothing was shut down. -/
structure Undisturbed (before after : CancelSignals) : Prop where
  cancelled : after.cancelled = before.cancelled
  isShutDown : after.isShutDown = before.isShutDown

theorem Undisturbed.isCancelled {before after : CancelSignals} (same : Undisturbed before after) (token : CancelToken) :
    after.isCancelled token = before.isCancelled token := by
  rw [CancelSignals.isCancelled, same.cancelled, same.isShutDown, CancelSignals.isCancelled]

/-- All that one call can do to the tokens that exist. -/
inductive Signalled (q : Queue) : QueueCall → CancelSignals → Prop where
  | still {call : QueueCall} {signals : CancelSignals} (same : Undisturbed q.signals signals) (quiet : call ≠ .shutDown)
      (nobody : ∀ held, ¬ Asks q call held) : Signalled q call signals
  | asks {call : QueueCall} {held : ActiveJob} (asked : Asks q call held) :
      Signalled q call (q.signals.cancel held.token)
  | shuts : Signalled q .shutDown q.signals.shutDown

private theorem cancel_signals (q : Queue) (target : Option JobId) (now : Timestamp) :
    Signalled q (.cancel target) (q.cancel target now).state.signals := by
  by_cases about : ∃ held, Asks q (.cancel target) held
  · obtain ⟨held, asked⟩ := about
    have aimed : target = none ∨ target = some held.job.id := by simpa using asked.request
    rw [cancel_active asked.active aimed]
    exact .asks asked
  · refine .still ?_ (fun same => nomatch same) (not_exists.mp about)
    cases target with
    | none =>
      have free : q.active = none := by
        cases active : q.active with
        | none => rfl
        | some held => exact absurd ⟨held, active, Or.inl rfl⟩ about
      simp only [Queue.cancel, free]
      exact ⟨rfl, rfl⟩
    | some id =>
      have inactive : q.activeId? ≠ some id := by
        intro same
        obtain ⟨held, active, rfl⟩ := Option.map_eq_some_iff.mp same
        exact about ⟨held, active, Or.inr rfl⟩
      rw [cancel_inactive inactive, Queue.withdraw]
      split <;> exact ⟨rfl, rfl⟩

private theorem waitNext_signals (q : Queue) (now : Timestamp) :
    Undisturbed q.signals (q.waitNext now).state.signals := by
  cases answer : (q.waitNext now).answer with
  | none =>
    obtain ⟨bell, same⟩ := UntimedQueues.waitNext_idle answer
    rw [same]
    exact ⟨rfl, rfl⟩
  | some claim =>
    obtain ⟨-, -, -, -, -, -, -, signals⟩ := UntimedQueues.waitNext_claims answer
    rw [signals]
    exact ⟨rfl, rfl⟩

private theorem call_signals (q : Queue) (call : QueueCall) (now : Timestamp) :
    Signalled q call (q.step call now).state.signals := by
  have silent {other : QueueCall} (differs : ∀ target, other ≠ .cancel target) (held : ActiveJob) : ¬ Asks q other held :=
    fun asked => asked.request.elim (differs _) (differs _)
  cases call with
  | cancel target => exact cancel_signals q target now
  | shutDown => exact .shuts
  | enqueue | stopWaiting => exact .still ⟨rfl, rfl⟩ (by simp) (silent (by simp))
  | next =>
    refine .still ?_ (by simp) (silent (by simp))
    simp only [Queue.step, Queue.next]
    split <;> exact ⟨rfl, rfl⟩
  | waitNext => exact .still (waitNext_signals q now) (by simp) (silent (by simp))
  | finishActive id =>
    refine .still ?_ (by simp) (silent (by simp))
    simp only [Queue.step, Queue.finishActive]
    split <;> exact ⟨rfl, rfl⟩

private theorem isCancelled_call (q : Queue) (call : QueueCall) (now : Timestamp) (token : CancelToken) :
    (q.step call now).state.signals.isCancelled token = true ↔ q.signals.isCancelled token = true ∨
      call = .shutDown ∧ token.followsShutdown = true ∨ ∃ held, Asks q call held ∧ token.number = held.token.number := by
  have signalled := call_signals q call now
  generalize (q.step call now).state.signals = after at signalled ⊢
  cases signalled with
  | still same quiet nobody => simp [same.isCancelled, quiet, nobody]
  | @asks _ held asked =>
    have only (other : ActiveJob) : Asks q call other ↔ other = held := by
      refine ⟨fun also => Option.some.inj (also.active.symm.trans asked.active), ?_⟩
      rintro rfl
      exact asked
    simp [CancelSignals.isCancelled_cancel, only, asked.quiet, or_comm]
  | shuts =>
    have nobody (held : ActiveJob) : ¬ Asks q .shutDown held := fun asked => asked.quiet rfl
    have both : token.followsShutdown = true ↔ token.followsShutdown = true ∧ q.signals.isShutDown = true ∨
        token.followsShutdown = true := ⟨Or.inr, fun either => either.elim And.left id⟩
    simp only [CancelSignals.shutDown, CancelSignals.isCancelled, Bool.or_eq_true, Bool.and_eq_true, and_true, nobody,
      false_and, exists_false, or_false, true_and, or_assoc]
    exact or_congr_right both

private theorem isShutDown_call (q : Queue) (call : QueueCall) (now : Timestamp) :
    (q.step call now).state.signals.isShutDown = true ↔ q.signals.isShutDown = true ∨ call = .shutDown := by
  have signalled := call_signals q call now
  generalize (q.step call now).state.signals = after at signalled ⊢
  cases signalled with
  | still same quiet => simp [same.isShutDown, quiet]
  | @asks _ held asked =>
    simp [UntimedQueues.isShutDown_cancel, asked.quiet]
  | shuts => simp [CancelSignals.shutDown]

/-- The calls that cancel the token of a claim: the claim stands at a place among all claims and is about a job. -/
inductive Cancels (c : Circulation) (place : Nat) (id : JobId) : CirculationCall → Prop where
  | shutDown : Cancels c place id (.queue .shutDown)
  | request {target : Option JobId} (active : c.desk.queue.activeId? = some id)
      (about : target = none ∨ target = some id) : Cancels c place id (.queue (.cancel target))
  | copy {index : Nat} {copy : TokenCopy} (held : c.copies[index]? = some copy) (own : copy.origin = place) :
      Cancels c place id (.cancel index)

/-- A desk that is kept, and copies that are copies of what was handed out. -/
structure Circulated (books : Ledger) (c : Circulation) : Prop where
  kept : Kept books c.desk
  follows : ∀ claim ∈ c.desk.claims, claim.token.followsShutdown = true
  copied : ∀ copy ∈ c.copies, ∃ claim, c.desk.claims[copy.origin]? = some claim ∧ claim.token = copy.token
  issued : ∀ n ∈ c.signals.cancelled, n < c.signals.issued

section
variable {books : Ledger} {c : Circulation}

private theorem number_of_place (kept : Kept books c.desk) {place : Nat} {claim : Claim}
    (found : c.desk.claims[place]? = some claim) : claim.token.number = place := by
  have numbered := congrArg (·[place]?) kept.tokens
  simp only [List.getElem?_map, found, Option.map_some] at numbered
  obtain ⟨inside, same⟩ := List.getElem?_eq_some_iff.mp numbered.symm
  rw [List.getElem_range] at same
  exact same.symm

/-- Each token has a claim of its own, by whose place it is numbered. -/
theorem place_iff (kept : Kept books c.desk) {place other : Nat} {claim another : Claim}
    (found : c.desk.claims[place]? = some claim) (also : c.desk.claims[other]? = some another) :
    claim.token.number = another.token.number ↔ other = place := by
  rw [number_of_place kept found, number_of_place kept also, eq_comm]

private theorem token_handedOut {q : Queue} {call : QueueCall} {now : Timestamp} {claim : Claim}
    (handed : claim ∈ q.handedOut call now) : claim.token = ⟨q.signals.issued, true⟩ := by
  cases call with
  | next =>
    simp only [Queue.handedOut, Queue.next] at handed
    split at handed
    · obtain rfl := Option.some.inj (Option.mem_toList.mp handed)
      rfl
    · cases handed
  | waitNext =>
    obtain ⟨-, -, -, -, token, -⟩ := UntimedQueues.waitNext_claims (Option.mem_toList.mp handed)
    exact token
  | enqueue | cancel | stopWaiting | shutDown | finishActive => cases handed

private theorem place_lt_issued (kept : Kept books c.desk) {place : Nat} {claim : Claim}
    (found : c.desk.claims[place]? = some claim) : place < c.signals.issued := by
  have issued := congrArg List.length kept.tokens
  rw [List.length_map, List.length_range] at issued
  exact issued ▸ (List.getElem?_eq_some_iff.mp found).1

private theorem active_handed (kept : Kept books c.desk) {held : ActiveJob} (active : c.desk.queue.active = some held) :
    ∃ (place : Nat) (claim : Claim), c.desk.claims[place]? = some claim ∧ claim.job.id = held.job.id ∧
      claim.token = held.token := by
  obtain ⟨claim, member, about, handed⟩ := kept.active held active
  obtain ⟨place, found⟩ := List.mem_iff_getElem?.mp member
  exact ⟨place, claim, found, about, handed⟩

theorem Circulated.copy (circulated : Circulated books c) (index : Nat) (now : Timestamp) :
    Circulated books (c.step (.copy index) now) := by
  refine ⟨circulated.kept, circulated.follows, ?_, circulated.issued⟩
  intro copy member
  rcases List.mem_append.mp member with old | new
  · exact circulated.copied copy old
  · exact circulated.copied copy (List.mem_of_getElem? (Option.mem_toList.mp new))

theorem Circulated.cancel (circulated : Circulated books c) (index : Nat) : Circulated books (c.cancel index) := by
  unfold Circulation.cancel
  split
  next copy held =>
    obtain ⟨claim, found, same⟩ := circulated.copied copy (List.mem_of_getElem? held)
    refine ⟨{ circulated.kept with tokens := ?_ }, circulated.follows, circulated.copied, ?_⟩
    · exact circulated.kept.tokens.trans (congrArg List.range (UntimedQueues.issued_cancel ..).symm)
    · intro n marked
      refine Nat.lt_of_lt_of_eq ?_ (UntimedQueues.issued_cancel ..).symm
      rcases (UntimedQueues.mem_cancel ..).mp marked with rfl | old
      · rw [← same, number_of_place circulated.kept found]
        exact place_lt_issued circulated.kept found
      · exact circulated.issued n old
  next => exact circulated

private theorem original_of_mem {place : Nat} {claims : List Claim} {copy : TokenCopy}
    (member : copy ∈ Circulation.originals place claims) :
    ∃ (index : Nat) (claim : Claim), claims[index]? = some claim ∧ copy = ⟨claim.token, place + index⟩ := by
  obtain ⟨⟨claim, origin⟩, placed, rfl⟩ := List.mem_map.mp member
  obtain ⟨later, found⟩ := List.mk_mem_zipIdx_iff_le_and_getElem?_sub.mp placed
  exact ⟨origin - place, claim, found, by rw [Nat.add_sub_cancel' later]⟩

theorem Circulated.call (circulated : Circulated books c) (call : QueueCall) (now : Timestamp)
    (fresh : (books.entered ++ call.accepted).Nodup) :
    Circulated (books ++ (c.desk.queue.step call now).answer) (c.step (.queue call) now) := by
  refine ⟨circulated.kept.call call now fresh, ?_, ?_, ?_⟩
  · intro claim member
    rcases List.mem_append.mp member with old | new
    · exact circulated.follows claim old
    · rw [token_handedOut new]
  · intro copy member
    rcases List.mem_append.mp member with old | new
    · obtain ⟨claim, found, same⟩ := circulated.copied copy old
      exact ⟨claim, (List.getElem?_append_left (List.getElem?_eq_some_iff.mp found).1).trans found, same⟩
    · obtain ⟨index, claim, found, rfl⟩ := original_of_mem new
      refine ⟨claim, ?_, rfl⟩
      exact (List.getElem?_append_right (Nat.le_add_right ..)).trans (by rwa [Nat.add_sub_cancel_left])
  · intro n marked
    have later : c.signals.issued ≤ (c.desk.queue.step call now).state.signals.issued := by
      have hands := call_hands c.desk.queue call now
      generalize c.desk.queue.handedOut call now = claims at hands
      cases hands with
      | nobody issued => exact Nat.le_of_eq issued.symm
      | somebody claim token issued => exact issued ▸ Nat.le_succ _
    refine Nat.lt_of_lt_of_le ?_ later
    have signalled := call_signals c.desk.queue call now
    simp only [Circulation.signals, Circulation.step, Desk.step] at marked
    generalize (c.desk.queue.step call now).state.signals = signals at marked signalled
    cases signalled with
    | still same => exact circulated.issued n (same.cancelled ▸ marked)
    | @asks _ held asked =>
      rcases (UntimedQueues.mem_cancel ..).mp marked with rfl | old
      · obtain ⟨place, claim, found, -, same⟩ := active_handed circulated.kept asked.active
        rw [← same, number_of_place circulated.kept found]
        exact place_lt_issued circulated.kept found
      · exact circulated.issued n old
    | shuts => exact circulated.issued n marked

theorem Circulated.run (circulated : Circulated books c) (calls : List (CirculationCall × Timestamp))
    (fresh : (books.entered ++ calls.flatMap (·.1.accepted)).Nodup) : ∃ books, Circulated books (c.run calls) := by
  induction calls generalizing books c with
  | nil => exact ⟨books, circulated⟩
  | cons made rest ih =>
    obtain ⟨call, now⟩ := made
    rw [List.flatMap_cons, ← List.append_assoc] at fresh
    cases call with
    | queue call =>
      apply ih (circulated.call call now (List.nodup_append.mp fresh).1)
      rwa [Ledger.entered_append, entered_step]
    | copy index =>
      apply ih (circulated.copy index now)
      simpa [CirculationCall.accepted] using fresh
    | cancel index =>
      apply ih (circulated.cancel index)
      simpa [CirculationCall.accepted] using fresh

theorem circulated_run (calls : List (CirculationCall × Timestamp)) (fresh : (calls.flatMap (·.1.accepted)).Nodup) :
    ∃ books, Circulated books (Circulation.run {} calls) := by
  have initial : Circulated {} {} :=
    ⟨.initial, fun _ none => (nomatch none), fun _ none => (nomatch none), fun _ none => nomatch none⟩
  exact initial.run calls (by simpa using fresh)

/-- What one call does to a token that was handed out. -/
theorem Circulated.isCancelled_step (circulated : Circulated books c) {place : Nat} {claim : Claim}
    (found : c.desk.claims[place]? = some claim) (call : CirculationCall) (now : Timestamp) :
    (c.step call now).signals.isCancelled claim.token = true ↔
      c.signals.isCancelled claim.token = true ∨ Cancels c place claim.job.id call := by
  have member := List.mem_of_getElem? found
  cases call with
  | queue call =>
    have follows := circulated.follows claim member
    refine (isCancelled_call c.desk.queue call now claim.token).trans (or_congr_right ?_)
    rw [follows]
    refine ⟨?_, fun cancels => ?_⟩
    · rintro (⟨rfl, -⟩ | ⟨held, asked, same⟩)
      · exact .shutDown
      · have about := (circulated.kept.token_iff asked.active member).mp same
        have active : c.desk.queue.activeId? = some claim.job.id := by
          rw [Queue.activeId?, asked.active, about]
          rfl
        rcases asked.request with rfl | rfl
        · exact .request active (Or.inl rfl)
        · exact .request active (Or.inr (by rw [about]))
    · cases cancels with
      | shutDown => exact Or.inl ⟨rfl, rfl⟩
      | request active about =>
        obtain ⟨held, active, same⟩ := Option.map_eq_some_iff.mp active
        refine Or.inr ⟨held, ⟨active, ?_⟩, (circulated.kept.token_iff active member).mpr same.symm⟩
        rw [same]
        exact about.imp (congrArg _) (congrArg _)
  | copy index =>
    refine ⟨Or.inl, fun either => either.elim id fun cancels => ?_⟩
    cases cancels
  | cancel index =>
    simp only [Circulation.step, Circulation.cancel]
    cases held : c.copies[index]? with
    | none =>
      refine ⟨Or.inl, fun either => either.elim id fun cancels => ?_⟩
      cases cancels with
      | copy some => cases held.symm.trans some
    | some copy =>
      obtain ⟨another, also, same⟩ := circulated.copied copy (List.mem_of_getElem? held)
      simp only [Circulation.signals, CancelSignals.isCancelled_cancel, Bool.or_eq_true, decide_eq_true_eq, ← same,
        place_iff circulated.kept found also]
      rw [or_comm]
      refine or_congr_right ⟨.copy held, fun cancels => ?_⟩
      cases cancels with
      | copy some own =>
        obtain rfl := Option.some.inj (held.symm.trans some)
        exact own

theorem isShutDown_step (c : Circulation) (call : CirculationCall) (now : Timestamp) :
    (c.step call now).signals.isShutDown = true ↔ c.signals.isShutDown = true ∨ call = .queue .shutDown := by
  cases call with
  | queue call =>
    refine (isShutDown_call c.desk.queue call now).trans (or_congr_right ?_)
    rw [CirculationCall.queue.injEq]
  | copy index => simp [Circulation.step, Circulation.signals]
  | cancel index =>
    simp only [Circulation.step, Circulation.cancel]
    split <;> simp [Circulation.signals, UntimedQueues.isShutDown_cancel]

private theorem isCancelled_stays {token : CancelToken} (cancelled : c.signals.isCancelled token = true)
    (calls : List (CirculationCall × Timestamp)) : (c.run calls).signals.isCancelled token = true := by
  induction calls generalizing c with
  | nil => exact cancelled
  | cons made rest ih =>
    obtain ⟨call, now⟩ := made
    apply ih
    cases call with
    | queue call => exact QueueMoves.cancelled_call c.desk.queue call now cancelled
    | copy index => exact cancelled
    | cancel index =>
      simp only [Circulation.step, Circulation.cancel]
      split
      · simp only [Circulation.signals, CancelSignals.isCancelled_cancel, Bool.or_eq_true]
        exact Or.inr cancelled
      · exact cancelled

private theorem getElem?_grown {α : Type} {first whole : List α} (grown : first <+: whole) {index : Nat} {x : α}
    (found : first[index]? = some x) : whole[index]? = some x := by
  obtain ⟨more, rfl⟩ := grown
  rwa [List.getElem?_append_left (List.getElem?_eq_some_iff.mp found).1]

private theorem claims_grow (c : Circulation) (calls : List (CirculationCall × Timestamp)) :
    c.desk.claims <+: (c.run calls).desk.claims := by
  induction calls generalizing c with
  | nil => exact List.prefix_refl _
  | cons made rest ih =>
    obtain ⟨call, now⟩ := made
    refine List.IsPrefix.trans ?_ (ih (c.step call now))
    cases call with
    | queue call => exact List.prefix_append ..
    | copy index => exact List.prefix_refl _
    | cancel index =>
      simp only [Circulation.step, Circulation.cancel]
      split <;> exact List.prefix_refl _

end

section
variable {calls : List (CirculationCall × Timestamp)}

theorem isShutDown_iff : (Circulation.run {} calls).signals.isShutDown = true ↔ ∃ now, (.queue .shutDown, now) ∈ calls := by
  induction calls using List.reverseRecOn with
  | nil => simp [Circulation.run, Circulation.signals]
  | append_singleton calls made ih =>
    obtain ⟨call, now⟩ := made
    rw [Circulation.run_append]
    refine (isShutDown_step _ call now).trans ?_
    rw [ih]
    simp only [List.mem_append, List.mem_singleton, Prod.mk.injEq, exists_or]
    refine or_congr_right ⟨fun same => ⟨now, same.symm, rfl⟩, ?_⟩
    rintro ⟨-, same, -⟩
    exact same.symm

private theorem handed_of_new {c : Circulation} {call : CirculationCall} {now : Timestamp} {place : Nat} {claim : Claim}
    (absent : c.desk.claims[place]? ≠ some claim) (found : (c.step call now).desk.claims[place]? = some claim) :
    ∃ made, call = .queue made ∧ claim ∈ c.desk.queue.handedOut made now := by
  cases call with
  | queue call =>
    refine ⟨call, rfl, ?_⟩
    simp only [Circulation.step, Desk.step, List.getElem?_append] at found
    split at found
    · exact absurd found absent
    · exact List.mem_of_getElem? found
  | copy index => exact absurd found absent
  | cancel index =>
    simp only [Circulation.step, Circulation.cancel] at found
    split at found <;> exact absurd found absent

private theorem undisturbed_handedOut {q : Queue} {call : QueueCall} {now : Timestamp} {claim : Claim}
    (handed : claim ∈ q.handedOut call now) : Undisturbed q.signals (q.step call now).state.signals := by
  have signalled := call_signals q call now
  generalize (q.step call now).state.signals = after at signalled ⊢
  cases signalled with
  | still same => exact same
  | asks asked => rcases asked.request with rfl | rfl <;> cases handed
  | shuts => cases handed

/-- A token that is handed out is cancelled from the beginning just if the queue is shut down. -/
theorem Circulated.isCancelled_handedOut {books : Ledger} {c : Circulation} (circulated : Circulated books c)
    {call : QueueCall} {now : Timestamp} {claim : Claim} (handed : claim ∈ c.desk.queue.handedOut call now)
    (cancelled : (c.step (.queue call) now).signals.isCancelled claim.token = true) : c.signals.isShutDown = true := by
  have before : c.signals.isCancelled claim.token = true :=
    ((undisturbed_handedOut handed).isCancelled claim.token).symm.trans cancelled
  rw [token_handedOut handed, CancelSignals.isCancelled] at before
  have unmarked : c.desk.queue.signals.issued ∉ c.signals.cancelled := fun marked =>
    Nat.lt_irrefl _ (circulated.issued _ marked)
  simpa [unmarked] using before

private theorem isCancelled_of_cancels (fresh : (calls.flatMap (·.1.accepted)).Nodup) {place : Nat} {claim : Claim}
    (found : (Circulation.run {} calls).desk.claims[place]? = some claim)
    {before after : List (CirculationCall × Timestamp)} {call : CirculationCall} {now : Timestamp}
    (made : calls = before ++ (call, now) :: after) (cancels : Cancels (Circulation.run {} before) place claim.job.id call) :
    (Circulation.run {} calls).signals.isCancelled claim.token = true := by
  obtain ⟨books, circulated⟩ := circulated_run calls fresh
  have early : ∃ books, Circulated books (Circulation.run {} before) := by
    apply circulated_run
    rw [made, List.flatMap_append] at fresh
    exact (List.nodup_append.mp fresh).1
  obtain ⟨_, early⟩ := early
  have whole : Circulation.run {} calls = ((Circulation.run {} before).step call now).run after := by
    rw [made, Circulation.run_append]
    rfl
  have grown : (Circulation.run {} before).desk.claims <+: (Circulation.run {} calls).desk.claims := by
    rw [made, Circulation.run_append]
    exact claims_grow ..
  have struck {there : Nat} (present : (Circulation.run {} before).desk.claims[there]? = some claim)
      (cancels : Cancels (Circulation.run {} before) there claim.job.id call) :
      (Circulation.run {} calls).signals.isCancelled claim.token = true := by
    rw [whole]
    exact isCancelled_stays ((early.isCancelled_step present call now).mpr (Or.inr cancels)) after
  cases cancels with
  | shutDown =>
    have shut : (Circulation.run {} calls).signals.isShutDown = true := isShutDown_iff.mpr ⟨now, by simp [made]⟩
    rw [CancelSignals.isCancelled, shut, circulated.follows claim (List.mem_of_getElem? found)]
    exact Bool.or_true _
  | request active about =>
    obtain ⟨held, inPlace, same⟩ := Option.map_eq_some_iff.mp active
    obtain ⟨there, other, present, named, -⟩ := active_handed early.kept inPlace
    obtain rfl : other = claim :=
      List.inj_on_of_nodup_map circulated.kept.distinct (grown.subset (List.mem_of_getElem? present))
        (List.mem_of_getElem? found) (named.trans same)
    exact struck present (.request active about)
  | copy held own =>
    obtain ⟨other, present, -⟩ := early.copied _ (List.mem_of_getElem? held)
    rw [own] at present
    obtain rfl : other = claim := Option.some.inj ((getElem?_grown grown present).symm.trans found)
    exact struck present (.copy held own)

/-- A token is cancelled just if a call did it. -/
theorem isCancelled_iff (fresh : (calls.flatMap (·.1.accepted)).Nodup) {place : Nat} {claim : Claim}
    (found : (Circulation.run {} calls).desk.claims[place]? = some claim) :
    (Circulation.run {} calls).signals.isCancelled claim.token = true ↔ ∃ before call now after,
      calls = before ++ (call, now) :: after ∧ Cancels (Circulation.run {} before) place claim.job.id call := by
  refine ⟨fun cancelled => ?_, fun ⟨before, call, now, after, made, cancels⟩ =>
    isCancelled_of_cancels fresh found made cancels⟩
  induction calls using List.reverseRecOn with
  | nil => cases found
  | append_singleton calls made ih =>
    obtain ⟨call, now⟩ := made
    have earlier : (calls.flatMap (·.1.accepted)).Nodup := by
      rw [List.flatMap_append] at fresh
      exact (List.nodup_append.mp fresh).1
    obtain ⟨books, circulated⟩ := circulated_run calls earlier
    rw [Circulation.run_append] at found cancelled
    by_cases old : (Circulation.run {} calls).desk.claims[place]? = some claim
    · rcases (circulated.isCancelled_step old call now).mp cancelled with already | cancels
      · obtain ⟨before, other, then', after, made, cancels⟩ := ih earlier old already
        exact ⟨before, other, then', after ++ [(call, now)], by rw [made]; simp, cancels⟩
      · exact ⟨calls, call, now, [], rfl, cancels⟩
    · obtain ⟨call, rfl, handed⟩ := handed_of_new old found
      obtain ⟨earlier, shut⟩ := isShutDown_iff.mp (circulated.isCancelled_handedOut handed cancelled)
      obtain ⟨before, after, made⟩ := List.append_of_mem shut
      exact ⟨before, .queue .shutDown, earlier, after ++ [(.queue call, now)], by rw [made]; simp, .shutDown⟩

end

theorem checkpoint_fails_iff (signals : CancelSignals) (token : CancelToken) :
    (signals.checkpoint token = .error .cancelled ↔ signals.isCancelled token = true) ∧
      (signals.checkpoint token = .ok () ↔ signals.isCancelled token = false) := by
  unfold CancelSignals.checkpoint
  split <;> simp_all

/-- But for the shutdown, a call cancels one token at most. -/
theorem Cancels.unique {books : Ledger} {c : Circulation} (circulated : Circulated books c) {place other : Nat}
    {claim another : Claim} (found : c.desk.claims[place]? = some claim) (also : c.desk.claims[other]? = some another)
    {call : CirculationCall} (quiet : call ≠ .queue .shutDown) (first : Cancels c place claim.job.id call)
    (second : Cancels c other another.job.id call) : other = place := by
  cases first with
  | shutDown => exact absurd rfl quiet
  | request active =>
    cases second with
    | request activeToo =>
      have same : claim.job.id = another.job.id := Option.some.inj (active.symm.trans activeToo)
      obtain rfl : claim = another := List.inj_on_of_nodup_map circulated.kept.distinct (List.mem_of_getElem? found)
        (List.mem_of_getElem? also) same
      exact (place_iff circulated.kept found also).mp rfl
  | copy held own =>
    cases second with
    | copy heldToo ownToo =>
      obtain rfl := Option.some.inj (held.symm.trans heldToo)
      exact ownToo.symm.trans own

/-- Whatever is called on a queue, and whoever makes and cancels copies of tokens: the token of a claim is cancelled just
if some call did it, a shutdown at any time, a request for its job while that was active, or a cancel through one of its
copies. It then stays cancelled, and its checkpoints fail. A call that cancels it shuts nothing down, unless it is the
shutdown itself, and cancels nobody else. -/
theorem tokens_are_cancelled_one_by_one (calls : List (CirculationCall × Timestamp))
    (fresh : (calls.flatMap (·.1.accepted)).Nodup) :
    let c := Circulation.run {} calls
    (∀ place claim, c.desk.claims[place]? = some claim →
      (c.signals.isCancelled claim.token = true ↔ ∃ before call now after, calls = before ++ (call, now) :: after ∧
        Cancels (Circulation.run {} before) place claim.job.id call) ∧
      (c.signals.isCancelled claim.token = true → ∀ more, (c.run more).signals.isCancelled claim.token = true) ∧
      (c.signals.checkpoint claim.token = .error .cancelled ↔ c.signals.isCancelled claim.token = true) ∧
      (c.signals.checkpoint claim.token = .ok () ↔ c.signals.isCancelled claim.token = false)) ∧
    (∀ copy ∈ c.copies, ∃ claim, c.desk.claims[copy.origin]? = some claim ∧ claim.token = copy.token) ∧
    (c.signals.isShutDown = true ↔ ∃ now, (.queue .shutDown, now) ∈ calls) ∧
    ∀ call now, call ≠ .queue .shutDown → (c.step call now).signals.isShutDown = c.signals.isShutDown ∧
      ∀ place claim, c.desk.claims[place]? = some claim → Cancels c place claim.job.id call →
        ∀ other another, c.desk.claims[other]? = some another → other ≠ place →
          (c.step call now).signals.isCancelled another.token = c.signals.isCancelled another.token := by
  intro c
  obtain ⟨books, circulated⟩ := circulated_run calls fresh
  refine ⟨fun place claim found => ⟨isCancelled_iff fresh found, isCancelled_stays, checkpoint_fails_iff ..⟩,
    circulated.copied, isShutDown_iff, fun call now quiet => ⟨?_, ?_⟩⟩
  · rw [Bool.eq_iff_iff, isShutDown_step, or_iff_left quiet]
  · intro place claim found cancels other another also apart
    rw [Bool.eq_iff_iff, circulated.isCancelled_step also, or_iff_left]
    exact fun also' => apart (cancels.unique circulated found also quiet also')

/-- Two jobs are claimed one after the other. When the first is over, it is cancelled through a copy of a copy of its
token. -/
def passedOn : List (CirculationCall × Timestamp) :=
  [.queue (.enqueue ⟨"a"⟩ default), .queue (.enqueue ⟨"b"⟩ default), .queue .next, .copy 0, .copy 1,
    .queue (.finishActive ⟨"a"⟩), .queue .next, .cancel 2].map (·, default)

theorem tokens_are_cancelled_one_by_one_passed_on :
    (passedOn.flatMap (·.1.accepted)).Nodup ∧
      let c := Circulation.run {} passedOn
      ∃ first second, c.desk.claims[0]? = some first ∧ c.desk.claims[1]? = some second ∧
        (∃ before call now after, passedOn = before ++ (call, now) :: after ∧
          Cancels (Circulation.run {} before) 0 first.job.id call) ∧
        c.signals.checkpoint first.token = .error .cancelled ∧ c.signals.checkpoint second.token = .ok () ∧
        c.signals.isShutDown = false := by
  have fresh : (passedOn.flatMap (·.1.accepted)).Nodup := by decide
  obtain ⟨tokens, -⟩ := tokens_are_cancelled_one_by_one passedOn fresh
  have claimed : ∃ first second, (Circulation.run {} passedOn).desk.claims[0]? = some first ∧
      (Circulation.run {} passedOn).desk.claims[1]? = some second ∧
      (Circulation.run {} passedOn).signals.isCancelled first.token = true ∧
      (Circulation.run {} passedOn).signals.isCancelled second.token = false := ⟨_, _, rfl, rfl, rfl, rfl⟩
  obtain ⟨first, second, found, also, cancelled, spared⟩ := claimed
  obtain ⟨byCalls, -, fails, -⟩ := tokens 0 first found
  obtain ⟨-, -, -, passes⟩ := tokens 1 second also
  exact ⟨fresh, first, second, found, also, byCalls.mp cancelled, fails.mpr cancelled, passes.mpr spared, rfl⟩

end BookExport.Proofs.TokenTree
