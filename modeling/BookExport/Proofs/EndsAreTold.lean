import BookExport.Proofs.ActivePlace
import BookExport.Service.Reading

/-! A job that was accepted waits or is in the hands of a worker until its end is published. The end of an export can
only get lost when another export begins beside it, so workers must keep the turn until their exports have ended. -/

namespace BookExport.Proofs.EndsAreTold
open QueuePositions ServiceDeeds JobPlacement ActivePlace

def EndTold (id : JobId) (published : List Snapshot) : Prop :=
  ∃ final ∈ published, final.jobId = id ∧ final.status.isTerminal = true

theorem EndTold.earlier {id : JobId} {published : List Snapshot} (told : EndTold id published) (rest : List Snapshot) :
    EndTold id (published ++ rest) := by
  obtain ⟨final, member, ended⟩ := told
  exact ⟨final, List.mem_append_left _ member, ended⟩

theorem EndTold.later {id : JobId} {published : List Snapshot} (told : EndTold id published) (first : List Snapshot) :
    EndTold id (first ++ published) := by
  obtain ⟨final, member, ended⟩ := told
  exact ⟨final, List.mem_append_right _ member, ended⟩

/-- A job that has not ended waits, or is claimed, or is worked on and tracked. -/
inductive Unended (id : JobId) (scene : Scene) : Prop where
  | waits (inLine : id ∈ scene.line.ids)
  | claimed (held : scene.phase = .claimed id)
  | runs (running : scene.phase = .running id) (s : Snapshot) (tracked : scene.tracked = some s) (about : s.jobId = id)
      (goesOn : s.status.isTerminal = false)

/-- Whoever leaves a line by hand is withdrawn. -/
private theorem waits_or_told {before after : Line} {entered : List JobId} {published : List Snapshot}
    (change : Change before after entered published) (active : after.active = before.active) {id : JobId}
    (waits : id ∈ before.ids) : id ∈ after.ids ∨ EndTold id published := by
  cases change with
  | still => exact Or.inl waits
  | joined line job =>
    left
    rw [Line.ids, List.map_append]
    exact List.mem_append_left _ waits
  | left ahead job behind active now =>
    simp only [Line.ids, List.map_append, List.map_cons, List.mem_append, List.mem_cons, ids_moveUp] at waits ⊢
    rcases waits with front | rfl | back
    · exact Or.inl (Or.inl front)
    · exact Or.inr ⟨.withdrawn job now, List.mem_cons_self, rfl, rfl⟩
    · exact Or.inl (Or.inr back)
  | claimed | freed => cases active

theorem Unended.deed {id : JobId} {before after : Scene} {entered : List JobId} {published : List Snapshot}
    (unended : Unended id before) (deed : Deed before after entered published) :
    Unended id after ∨ EndTold id published := by
  induction deed with
  | lines phase tracked change active =>
    cases unended with
    | waits inLine => exact (waits_or_told change active inLine).imp_left .waits
    | claimed held => exact Or.inl (.claimed held)
    | runs running s held about goesOn => exact Or.inl (.runs running s held about goesOn)
  | claims job rest tracked =>
    cases unended with
    | waits inLine =>
      rcases List.mem_cons.mp inLine with rfl | behind
      · exact Or.inl (.claimed rfl)
      · exact Or.inl (.waits behind)
    | claimed held | runs held => cases held
  | begins line job tracked now =>
    cases unended with
    | waits inLine => exact Or.inl (.waits inLine)
    | claimed held =>
      cases held
      exact Or.inl (.runs rfl _ rfl rfl rfl)
    | runs running => cases running
  | records line phase s event now accepted goesOn =>
    cases unended with
    | waits inLine => exact Or.inl (.waits inLine)
    | claimed held => exact Or.inl (.claimed held)
    | runs running t tracked about still =>
      cases tracked
      have still : (s.after event now).status.isTerminal = false := by rw [isTerminal_after accepted, goesOn]; rfl
      exact Or.inl (.runs running _ rfl ((jobId_after s event now).trans about) still)
  | settles line s event now accepted ends =>
    cases unended with
    | waits inLine => exact Or.inl (.waits inLine)
    | claimed held => cases held
    | runs running =>
      cases running
      exact Or.inr ⟨_, List.mem_cons_self, jobId_after s event now, (isTerminal_after accepted now).trans ends⟩
  | gives line other tracked lost =>
    cases unended with
    | waits inLine => exact Or.inl (.waits inLine)
    | claimed held => cases held
    | runs running t held about still =>
      cases running
      rw [lost t held about] at still
      cases still
  | releases other jobs tracked now =>
    cases unended with
    | waits inLine => exact Or.inl (.waits (by simpa only [Line.ids, ids_moveUp] using inLine))
    | claimed held | runs held => cases held
  | leaves line other tracked =>
    cases unended with
    | waits inLine => exact Or.inl (.waits inLine)
    | claimed held | runs held => cases held
  | both first second ihFirst ihSecond =>
    rcases ihFirst unended with between | told
    · exact (ihSecond between).imp_right (.later · _)
    · exact Or.inr (told.earlier _)

/-- In a shop, a job may also be claimed by a worker that does not have the turn. -/
def UnendedIn (shop : Shop) (id : JobId) : Prop :=
  Unended id (sceneOf shop.service) ∨ ∃ worker ∈ shop.others, phaseOf worker = .claimed id

theorem numbered_step {shop : Shop} (numbered : (lineOf shop.service.queue).Numbered) (call : Call) (now : Timestamp) :
    (lineOf (shop.step call now).state.service.queue).Numbered := by
  cases call with
  | move move => exact numbered_deed (step_deed shop.service move now numbered) numbered
  | next =>
    have claimed := (next_changes shop.service.queue now numbered).numbered numbered
    simp only [Shop.step, Shop.next]
    split <;> exact claimed
  | finishActive id => exact (finishActive_changes shop.service.queue id now numbered).numbered numbered
  | turn index =>
    simp only [Shop.step, Shop.turn]
    split <;> exact numbered

section
variable {shop : Shop} {id : JobId}

/-- The queue alone changed, and whoever waits still does or was claimed by another worker. -/
private theorem UnendedIn.queue {others : List Worker} {queue : Queue} {broadcaster : Broadcaster}
    (unended : UnendedIn shop id) (kept : ∀ worker ∈ shop.others, worker ∈ others)
    (stays : id ∈ (lineOf shop.service.queue).ids →
      id ∈ (lineOf queue).ids ∨ ∃ worker ∈ others, phaseOf worker = .claimed id) :
    UnendedIn ⟨{ shop.service with queue, broadcaster }, others⟩ id := by
  rcases unended with (inLine | held | ⟨running, s, tracked, about, goesOn⟩) | ⟨worker, member, held⟩
  · exact (stays inLine).imp_left .waits
  · exact Or.inl (.claimed held)
  · exact Or.inl (.runs running s tracked about goesOn)
  · exact Or.inr ⟨worker, kept worker member, held⟩

private theorem UnendedIn.next (unended : UnendedIn shop id) (now : Timestamp)
    (numbered : (lineOf shop.service.queue).Numbered) : UnendedIn (shop.next now).state id := by
  unfold Shop.next
  simp only [Service.afterQueue]
  obtain ⟨refused, -⟩ | ⟨job, rest, claim, before, answer, same, -, after, -⟩ :=
    next_cases shop.service.queue now numbered
  · rw [refused]
    exact unended
  · rw [answer]
    apply unended.queue
    · exact fun worker member => List.mem_cons_of_mem _ member
    · intro inLine
      rw [before] at inLine
      rcases List.mem_cons.mp inLine with rfl | behind
      · exact Or.inr ⟨_, List.mem_cons_self, by simp only [phaseOf, same]; rfl⟩
      · exact Or.inl (after ▸ behind)

private theorem UnendedIn.turn (unended : UnendedIn shop id) (index : Nat)
    (kept : shop.interrupts (.turn index) = false) : UnendedIn (shop.turn index) id := by
  unfold Shop.turn
  cases found : shop.others[index]? with
  | none => exact unended
  | some worker =>
    obtain ⟨inside, -⟩ := List.getElem?_eq_some_iff.mp found
    rcases unended with (inLine | held | ⟨running, s, tracked, about, goesOn⟩) | ⟨other, member, held⟩
    · exact Or.inl (.waits inLine)
    · exact Or.inr ⟨shop.service.worker, List.mem_set inside _, held⟩
    · cases working : shop.service.worker <;> simp [Shop.interrupts, sceneOf, phaseOf, working] at running kept
    · obtain ⟨place, standing⟩ := List.getElem?_of_mem member
      by_cases same : place = index
      · subst same
        rw [found] at standing
        cases standing
        exact Or.inl (.claimed held)
      · rw [← List.getElem?_set_ne (Ne.symm same)] at standing
        exact Or.inr ⟨other, List.mem_of_getElem? standing, held⟩

theorem UnendedIn.step (unended : UnendedIn shop id) (numbered : (lineOf shop.service.queue).Numbered) (call : Call)
    (now : Timestamp) (kept : shop.interrupts call = false) :
    UnendedIn (shop.step call now).state id ∨ EndTold id (shop.step call now).published := by
  cases call with
  | move move =>
    rcases unended with unended | elsewhere
    · exact (unended.deed (step_deed shop.service move now numbered)).imp_left .inl
    · exact Or.inl (Or.inr elsewhere)
  | next => exact Or.inl (unended.next now numbered)
  | finishActive other =>
    left
    apply unended.queue (fun worker member => member)
    intro inLine
    left
    obtain ⟨-, ignored⟩ | ⟨-, -, after, -⟩ := finishActive_cases shop.service.queue other now numbered
    · rwa [ignored]
    · rw [after, Line.ids, ids_moveUp]
      exact inLine
  | turn index => exact Or.inl (unended.turn index kept)

private theorem accepted_waits {call : Call} (accepted : id ∈ call.accepted) (now : Timestamp) :
    UnendedIn (shop.step call now).state id := by
  cases call with
  | move move =>
    cases move with
    | accept other spec =>
      obtain rfl : id = other := List.mem_singleton.mp accepted
      exact Or.inl (.waits (by simp [Shop.step, Service.step, Outcome.silent, Service.accept, Service.afterQueue,
        Queue.enqueue, Job.create, sceneOf, lineOf, Line.ids]))
    | _ => cases accepted
  | next | finishActive | turn => cases accepted

/-- Once accepted, a job has not ended or its end was told. -/
theorem accepted_run {calls : List (Call × Timestamp)} (numbered : (lineOf shop.service.queue).Numbered)
    (kept : shop.isUninterrupted calls = true) (known : UnendedIn shop id ∨ id ∈ calls.flatMap (·.1.accepted)) :
    UnendedIn (shop.run calls).state id ∨ EndTold id (shop.run calls).published := by
  induction calls generalizing shop with
  | nil => exact Or.inl (known.resolve_right (by simp))
  | cons made rest ih =>
    obtain ⟨call, now⟩ := made
    simp only [Shop.isUninterrupted, Bool.and_eq_true, Bool.not_eq_true'] at kept
    have next := numbered_step numbered call now
    rw [List.flatMap_cons, List.mem_append, ← or_assoc] at known
    have first : (UnendedIn (shop.step call now).state id ∨ EndTold id (shop.step call now).published) ∨
        id ∈ rest.flatMap (·.1.accepted) := by
      refine known.imp_left ?_
      rintro (unended | accepted)
      · exact unended.step numbered call now kept.1
      · exact Or.inl (accepted_waits accepted now)
    rcases first with (unended | told) | later
    · exact (ih next kept.2 (Or.inl unended)).imp_right (.later · _)
    · exact Or.inr (told.earlier _)
    · exact (ih next kept.2 (Or.inr later)).imp_right (.later · _)

end

theorem numbered_run {shop : Shop} (numbered : (lineOf shop.service.queue).Numbered)
    (calls : List (Call × Timestamp)) : (lineOf (shop.run calls).state.service.queue).Numbered := by
  induction calls generalizing shop with
  | nil => exact numbered
  | cons made rest ih => exact ih (numbered_step numbered made.1 made.2)

/-- Whoever was accepted in some round has not ended, or its end was told in one of the rounds. -/
theorem accepted_read {shop : Shop} {number : Nat} {rounds : List (List (Call × Timestamp))} {id : JobId}
    (numbered : (lineOf shop.service.queue).Numbered) (kept : shop.readsUninterrupted number rounds = true)
    (known : UnendedIn shop id ∨ id ∈ rounds.flatten.flatMap (·.1.accepted)) :
    UnendedIn (shop.read number rounds).state id ∨ ∃ earlier round later, rounds = earlier ++ round :: later ∧
      EndTold id ((shop.read number earlier).state.run round).published := by
  induction rounds generalizing shop with
  | nil => exact Or.inl (known.resolve_right (by simp))
  | cons round rest ih =>
    simp only [Shop.readsUninterrupted, Bool.and_eq_true] at kept
    rw [List.flatten_cons, List.flatMap_append, List.mem_append, ← or_assoc] at known
    have next : (lineOf ((shop.run round).state.drain number).2.service.queue).Numbered := numbered_run numbered round
    have first := known.imp_left (accepted_run numbered kept.1)
    have behind (known : UnendedIn (shop.run round).state id ∨ id ∈ rest.flatten.flatMap (·.1.accepted)) :
        UnendedIn (shop.read number (round :: rest)).state id ∨ ∃ earlier other later,
          round :: rest = earlier ++ other :: later ∧
            EndTold id ((shop.read number earlier).state.run other).published := by
      refine (ih next kept.2 known).imp_right ?_
      rintro ⟨earlier, other, later, rfl, told⟩
      exact ⟨round :: earlier, other, later, rfl, told⟩
    rcases first with (unended | told) | later
    · exact behind (Or.inl unended)
    · exact Or.inr ⟨[], round, rest, rfl, told⟩
    · exact behind (Or.inr later)

end BookExport.Proofs.EndsAreTold
