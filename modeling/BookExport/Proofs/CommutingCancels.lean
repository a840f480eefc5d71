import BookExport.Proofs.ExactCancels
import BookExport.Proofs.PollAfterPublish
import BookExport.Proofs.UntimedStories

/-! Two jobs are cancelled, and it does not matter which one first. On the way different places are told of the jobs
behind the first one, and the job that leaves last may be moved before it leaves; but the last that is told of each job is
the same. -/

namespace BookExport.Proofs.CommutingCancels
open QueuePositions QueueHistory BroadcasterMemory LatestSnapshots FinishedJobs JobStories PositionAgreement PollAfterPublish
open ExactCancels UntimedStories

inductive CancelKind where
  | refused (fault : CancelFault)
  | removed (id : JobId)
  | requested (id : JobId) (already : Bool)
  deriving DecidableEq, Repr

def kindOf : Except CancelFault Cancellation → CancelKind
  | .error fault => .refused fault
  | .ok (.removed job _) => .removed job.id
  | .ok (.requested id already) => .requested id already

/-- The last that was told of a job, but for its time. -/
def lastOf (id : JobId) (log : List Snapshot) : Option Snapshot := ((story id log).getLast?).map timeless

theorem lastOf_append (id : JobId) (first rest : List Snapshot) :
    lastOf id (first ++ rest) = (lastOf id rest).or (lastOf id first) := by
  rw [lastOf, story_append, List.getLast?_append, Option.map_or]
  rfl

private theorem lastOf_cons (id : JobId) (s : Snapshot) (rest : List Snapshot) :
    lastOf id (s :: rest) = (lastOf id rest).or (lastOf id [s]) := lastOf_append id [s] rest

def placesOf (id : JobId) (jobs : List Job) : Option Snapshot := lastOf id (jobs.map (Snapshot.queued · default))

theorem lastOf_timeless {id : JobId} {log other : List Snapshot} (same : log.map timeless = other.map timeless) :
    lastOf id log = lastOf id other := by
  have erased (log : List Snapshot) : lastOf id log = (story id (log.map timeless)).getLast? := by
    rw [lastOf, story, story, List.filter_map, List.getLast?_map]
    rfl
  rw [erased, erased, same]

private theorem lastOf_queued (id : JobId) (jobs : List Job) (now : Timestamp) :
    lastOf id (jobs.map (Snapshot.queued · now)) = placesOf id jobs := by
  apply lastOf_timeless
  rw [List.map_map, List.map_map]
  rfl

def endOf (id : JobId) (job : Job) : Option Snapshot := lastOf id [.withdrawn job default]

private theorem endOf_other {id : JobId} {job : Job} (other : job.id ≠ id) : endOf id job = none := by
  rw [endOf, lastOf, story_cons_other other]
  rfl

private theorem endOf_isSome (job : Job) : (endOf job.id job).isSome := by
  rw [endOf, lastOf, story_cons_self (show (Snapshot.withdrawn job default).jobId = job.id from rfl)]
  rfl

theorem placesOf_absent {id : JobId} {jobs : List Job} (absent : id ∉ jobs.map (·.id)) : placesOf id jobs = none := by
  rw [placesOf, lastOf, story_queued_absent absent]
  rfl

private theorem placesOf_append (id : JobId) (ahead behind : List Job) :
    placesOf id (ahead ++ behind) = (placesOf id behind).or (placesOf id ahead) := by
  rw [placesOf, List.map_append, lastOf_append]
  rfl

private theorem placesOf_isSome {id : JobId} {jobs : List Job} (inside : id ∈ jobs.map (·.id)) : (placesOf id jobs).isSome := by
  obtain ⟨job, member, rfl⟩ := List.mem_map.mp inside
  have told : Snapshot.queued job default ∈ story job.id (jobs.map (Snapshot.queued · default)) :=
    mem_story.mpr ⟨List.mem_map_of_mem member, rfl⟩
  rw [placesOf, lastOf, Option.isSome_map, List.getLast?_isSome]
  exact List.ne_nil_of_mem told

private theorem lastOf_leaving (id : JobId) (job : Job) (moved : List Job) (now : Timestamp) :
    lastOf id (.withdrawn job now :: moved.map (Snapshot.queued · now)) = (placesOf id moved).or (endOf id job) := by
  rw [lastOf_cons, lastOf_queued, endOf]
  congr 1
  exact lastOf_timeless rfl

/-- A line without gaps, in which each job stands once and the active one does not. -/
structure Lined (q : Queue) : Prop where
  numbered : (lineOf q).Numbered
  distinct : (waitingIds q).Nodup
  apart : ∀ id ∈ waitingIds q, q.activeId? ≠ some id

private theorem remove?_between {ahead behind : List Job} {job : Job} (distinct : ((ahead ++ job :: behind).map (·.id)).Nodup) :
    Queue.remove? job.id (ahead ++ job :: behind) = some (job, ahead ++ behind) := by
  have found : (ahead ++ job :: behind)[ahead.length]? = some job := by simp
  rw [remove?_at distinct found]
  simp

section
variable {q : Queue} {ahead behind : List Job} {job : Job}

def without (q : Queue) (ahead behind : List Job) : Queue := { q with pending := ahead ++ behind.map moveUp }

theorem cancel_between (lined : Lined q) (waited : q.pending = ahead ++ job :: behind) (now : Timestamp) :
    q.cancel (some job.id) now =
      ⟨without q ahead behind,
        .ok (.removed ({ job with cancelRequested := true }.finish .cancelled now) (behind.map moveUp)),
        .withdrawn job now :: (behind.map moveUp).map (Snapshot.queued · now)⟩ := by
  have distinct : ((ahead ++ job :: behind).map (·.id)).Nodup := waited ▸ lined.distinct
  have inactive : q.activeId? ≠ some job.id := lined.apart job.id (by simp [waitingIds, waited])
  have found : Queue.remove? job.id q.pending = some (job, ahead ++ behind) := waited ▸ remove?_between distinct
  rw [cancel_inactive inactive, withdraw_eq waited found lined.numbered now]
  rfl

theorem Lined.without (lined : Lined q) (waited : q.pending = ahead ++ job :: behind) :
    Lined (without q ahead behind) := by
  have fewer : (waitingIds (CommutingCancels.without q ahead behind)).Sublist (waitingIds q) := by
    simp only [waitingIds, CommutingCancels.without, waited, List.map_append, ids_moveUp, List.map_cons]
    exact (List.Sublist.refl _).append (List.sublist_cons_self ..)
  have numbered := (cancel_changes q (some job.id) default lined.numbered).numbered lined.numbered
  rw [cancel_between lined waited] at numbered
  exact ⟨numbered, fewer.nodup lined.distinct, fun id waits => lined.apart id (fewer.subset waits)⟩

theorem Lined.asked (lined : Lined q) {held : ActiveJob} (active : q.active = some held) :
    Lined (q.requestCancel held).state := by
  have line : lineOf (q.requestCancel held).state = lineOf q := by
    simp [lineOf, Queue.requestCancel, Queue.activeId?, active]
  have same : (q.requestCancel held).state.activeId? = q.activeId? := congrArg Line.active line
  exact ⟨line ▸ lined.numbered, lined.distinct, same ▸ lined.apart⟩

end

def cancelBoth (q : Queue) (first second : JobId) (now later : Timestamp) : Outcome Queue (CancelKind × CancelKind) :=
  let one := q.cancel (some first) now
  let both := one.state.cancel (some second) later
  ⟨both.state, (kindOf one.answer, kindOf both.answer), one.published ++ both.published⟩

/-- Two requests come to the same in either order. -/
structure Commute (one other : Outcome Queue (CancelKind × CancelKind)) : Prop where
  answer : one.answer = other.answer.swap
  found : ∀ fault, one.answer.1 ≠ .refused fault ∧ one.answer.2 ≠ .refused fault
  state : one.state = other.state
  told : ∀ id, lastOf id one.published = lastOf id other.published

theorem Commute.symm {one other : Outcome Queue (CancelKind × CancelKind)} (commute : Commute one other) :
    Commute other one := by
  refine ⟨?_, fun fault => ?_, commute.state.symm, fun id => (commute.told id).symm⟩
  · rw [commute.answer, Prod.swap_swap]
  · have found := commute.found fault
    rw [commute.answer] at found
    exact found.symm

section
variable {q : Queue} (now later then' after : Timestamp)

private theorem commute_active (lined : Lined q) {held : ActiveJob} (active : q.active = some held) {ahead behind : List Job}
    {job : Job} (waited : q.pending = ahead ++ job :: behind) :
    Commute (cancelBoth q held.job.id job.id now later) (cancelBoth q job.id held.job.id then' after) := by
  have asked : q.cancel (some held.job.id) now = q.requestCancel held := cancel_active active (Or.inr rfl) now
  have stillWaited : (q.requestCancel held).state.pending = ahead ++ job :: behind := waited
  have withdrawn := cancel_between (lined.asked active) stillWaited later
  have askedLater : (without q ahead behind).cancel (some held.job.id) after = (without q ahead behind).requestCancel held :=
    cancel_active (q := without q ahead behind) active (Or.inr rfl) after
  simp only [cancelBoth, asked, withdrawn, cancel_between lined waited, askedLater]
  refine ⟨rfl, fun fault => ⟨nofun, nofun⟩, rfl, fun id => ?_⟩
  apply lastOf_timeless
  simp only [Queue.requestCancel, List.nil_append, List.append_nil, List.map_cons, List.map_map]
  rfl

/-- Whoever was behind both is last told the place it has then, each of the two its end, and whoever was between them its
new place. -/
private theorem lasts_agree {middle behind : List Job} {front back : Job}
    (distinct : ((front :: (middle ++ back :: behind)).map (·.id)).Nodup) (id : JobId) :
    ((placesOf id ((behind.map moveUp).map moveUp)).or (endOf id (moveUp back))).or
        ((placesOf id ((middle ++ back :: behind).map moveUp)).or (endOf id front)) =
      ((placesOf id ((middle ++ behind.map moveUp).map moveUp)).or (endOf id front)).or
        ((placesOf id (behind.map moveUp)).or (endOf id back)) := by
  have sameEnd : endOf id (moveUp back) = endOf id back := rfl
  have line : (middle ++ back :: behind).map moveUp = middle.map moveUp ++ ([moveUp back] ++ behind.map moveUp) := by simp
  rw [sameEnd, line, List.map_append]
  simp only [placesOf_append]
  by_cases behindBoth : id ∈ behind.map (·.id)
  · have told : (placesOf id ((behind.map moveUp).map moveUp)).isSome :=
      placesOf_isSome (by rwa [ids_moveUp, ids_moveUp])
    obtain ⟨place, told⟩ := Option.isSome_iff_exists.mp told
    simp only [told, Option.some_or]
  · have silent : placesOf id (behind.map moveUp) = none := placesOf_absent (by rwa [ids_moveUp])
    have silentToo : placesOf id ((behind.map moveUp).map moveUp) = none := placesOf_absent (by rwa [ids_moveUp, ids_moveUp])
    rw [silent, silentToo]
    by_cases last : back.id = id
    · subst last
      simp only [List.map_cons, List.map_append, List.nodup_cons, List.nodup_middle, List.mem_append, List.mem_cons,
        not_or] at distinct
      obtain ⟨⟨-, other, -⟩, ⟨absent, -⟩, -⟩ := distinct
      have stays : placesOf back.id (middle.map moveUp) = none := placesOf_absent (by rwa [ids_moveUp])
      obtain ⟨ended, told⟩ := Option.isSome_iff_exists.mp (endOf_isSome back)
      simp [stays, endOf_other other, told]
    · have absent : placesOf id [moveUp back] = none := placesOf_absent (by simpa using Ne.symm last)
      simp [endOf_other last, absent]

private theorem commute_waiting (lined : Lined q) {ahead middle behind : List Job} {front back : Job}
    (waited : q.pending = ahead ++ front :: (middle ++ back :: behind)) :
    Commute (cancelBoth q front.id back.id now later) (cancelBoth q back.id front.id then' after) := by
  have waitedToo : q.pending = (ahead ++ front :: middle) ++ back :: behind := by simp [waited]
  have moved : (without q ahead (middle ++ back :: behind)).pending =
      (ahead ++ middle.map moveUp) ++ moveUp back :: behind.map moveUp := by simp [without]
  have stayed : (without q (ahead ++ front :: middle) behind).pending =
      ahead ++ front :: (middle ++ behind.map moveUp) := by simp [without]
  have second := cancel_between (lined.without waited) moved later
  have swapped := cancel_between (lined.without waitedToo) stayed after
  rw [id_moveUp] at second
  simp only [cancelBoth, cancel_between lined waited, second, cancel_between lined waitedToo, swapped]
  refine ⟨rfl, fun fault => ⟨nofun, nofun⟩, ?_, fun id => ?_⟩
  · simp [without]
  · simp only [lastOf_append, lastOf_leaving]
    have distinct := lined.distinct
    rw [waitingIds, waited, List.map_append] at distinct
    exact lasts_agree (List.nodup_append.mp distinct).2.1 id

/-- Of two jobs that can be cancelled, one is active at most, and two that wait stand one behind the other. -/
theorem commute (lined : Lined q) {first second : JobId} (different : first ≠ second) (live : Live q (some first))
    (alsoLive : Live q (some second)) :
    Commute (cancelBoth q first second now later) (cancelBoth q second first then' after) := by
  have held {id : JobId} (active : q.activeId? = some id) : ∃ holder, q.active = some holder ∧ holder.job.id = id :=
    Option.map_eq_some_iff.mp active
  have waited {id : JobId} (waits : id ∈ waitingIds q) :
      ∃ ahead job behind, q.pending = ahead ++ job :: behind ∧ job.id = id := by
    obtain ⟨job, member, named⟩ := List.mem_map.mp waits
    obtain ⟨ahead, behind, line⟩ := List.append_of_mem member
    exact ⟨ahead, job, behind, line, named⟩
  rcases live with active | waits
  · rcases alsoLive with activeToo | waits
    · exact absurd (Option.some.inj (active.symm.trans activeToo)) different
    · obtain ⟨holder, place, rfl⟩ := held active
      obtain ⟨ahead, job, behind, line, rfl⟩ := waited waits
      exact commute_active now later then' after lined place line
  · obtain ⟨ahead, job, behind, line, rfl⟩ := waited waits
    rcases alsoLive with active | waitsToo
    · obtain ⟨holder, place, rfl⟩ := held active
      exact (commute_active then' after now later lined place line).symm
    · obtain ⟨other, member, rfl⟩ := List.mem_map.mp waitsToo
      rw [line, List.mem_append, List.mem_cons] at member
      rcases member with before | rfl | behindIt
      · obtain ⟨front, middle, rfl⟩ := List.append_of_mem before
        rw [List.append_assoc, List.cons_append] at line
        exact (commute_waiting then' after now later lined line).symm
      · exact absurd rfl different
      · obtain ⟨middle, back, rfl⟩ := List.append_of_mem behindIt
        exact commute_waiting now later then' after lined line

end

/-- Two broadcasters show the same of each job and in the headline, but for times. -/
structure ShowsSame (a b : Broadcaster) : Prop where
  headline : a.headline = b.headline
  latest : ∀ id, (a.latest.lookup id).map timeless = (b.latest.lookup id).map timeless

theorem ShowsSame.poll {a b : Broadcaster} (same : ShowsSame a b) (id : Option JobId) :
    (a.poll id).map timeless = (b.poll id).map timeless := by
  rw [Broadcaster.poll, Broadcaster.poll, same.headline]
  cases id.or b.headline with
  | none => rfl
  | some id => exact same.latest id

section
variable {b : Broadcaster}

private theorem lookup_publish_unlimited (unlimited : b.retention = 0) (s : Snapshot) (id : JobId) :
    (b.publish s).latest.lookup id = if id = s.jobId then some s else b.latest.lookup id := by
  simp only [Broadcaster.publish, Broadcaster.retire, unlimited, ↓reduceIte, ite_self]
  exact lookup_setLatest ..

private theorem lookup_publishAll_unlimited (unlimited : b.retention = 0) (log : List Snapshot) (id : JobId) :
    (b.publishAll log).latest.lookup id = ((story id log).getLast?).or (b.latest.lookup id) := by
  induction log generalizing b with
  | nil => rfl
  | cons s rest ih =>
    refine (ih ((retention_publish b s).trans unlimited)).trans ?_
    rw [lookup_publish_unlimited unlimited]
    by_cases about : s.jobId = id
    · rw [story_cons_self about, if_pos about.symm, List.getLast?_cons]
      cases (story id rest).getLast? <;> rfl
    · rw [story_cons_other about, if_neg (Ne.symm about)]

private theorem headline_publishAll_idle {id : JobId} (led : b.headline = some id) {log : List Snapshot}
    (idle : ∀ s ∈ log, s.status.isActive = false) : (b.publishAll log).headline = some id := by
  induction log generalizing b with
  | nil => exact led
  | cons s rest ih =>
    refine ih ?_ fun t member => idle t (List.mem_cons_of_mem _ member)
    rw [headline_publish, Broadcaster.headlineAfter, led, idle s List.mem_cons_self]
    rfl

/-- What is last told of each job is all that counts, if nobody is forgotten and no work is told of. -/
private theorem showsSame_publishAll (unlimited : b.retention = 0) (led : b.headline.isSome = true) {one other : List Snapshot}
    (idle : ∀ s ∈ one, s.status.isActive = false) (idleToo : ∀ s ∈ other, s.status.isActive = false)
    (told : ∀ id, lastOf id one = lastOf id other) : ShowsSame (b.publishAll one) (b.publishAll other) := by
  obtain ⟨leader, led⟩ := Option.isSome_iff_exists.mp led
  refine ⟨?_, fun id => ?_⟩
  · rw [headline_publishAll_idle led idle, headline_publishAll_idle led idleToo]
  · rw [lookup_publishAll_unlimited unlimited, lookup_publishAll_unlimited unlimited, Option.map_or, Option.map_or]
    exact congrArg (Option.or · _) (told id)

end

theorem cancelBoth_idle {q : Queue} (lined : Lined q) (first second : JobId) (now later : Timestamp) :
    ∀ s ∈ (cancelBoth q first second now later).published, s.status.isActive = false := by
  have one := cancel_changes q (some first) now lined.numbered
  have both := cancel_changes _ (some second) later (one.numbered lined.numbered)
  intro s member
  rcases List.mem_append.mp member with early | late
  · exact one.idle s early
  · exact both.idle s late

theorem reached (s : Service) (empty : s.Empty) (calls : List (Call × Timestamp))
    (fresh : (calls.flatMap (·.1.accepted)).Nodup) :
    let after := (Shop.run ⟨s, []⟩ calls).state.service
    Lined after.queue ∧ (after.queue.pending ≠ [] → after.broadcaster.headline.isSome = true) ∧
      after.broadcaster.retention = s.broadcaster.retention := by
  intro after
  have shared := (Shared.initial empty).run calls (by simpa using fresh)
  have memory := shop_run_memory ⟨s, []⟩ calls
  have apart : Apart [] (lineOf s.queue) := by
    intro id active
    simp [empty.queue, lineOf, Queue.activeId?] at active
  have apart := apart.run (Shared.initial empty) calls (by simpa using fresh)
  have told := shared.placed.told
  refine ⟨⟨told.numbered, told.distinct, fun id waits active => (apart id active).2 waits⟩, fun some => ?_, ?_⟩
  · rw [memory.headline]
    apply headline_isSome
    right
    intro silent
    obtain ⟨job, rest, waited⟩ := List.exists_cons_of_ne_nil some
    have member : job ∈ after.queue.pending := waited ▸ List.mem_cons_self
    obtain ⟨shown, last, -⟩ := (told.waiting job member).last
    rw [List.nil_append, silent] at last
    cases last
  · exact memory.retention.trans (retention_publishAll ..)

/-- Whatever clients and workers did before: if nobody is ever forgotten, two different jobs that wait or are active can be
cancelled in either order, at whatever times. Each request comes to the same in both orders, the queue is the same in the
end, and so is what is shown of each job and in the headline, but for times. -/
theorem cancels_commute (s : Service) (empty : s.Empty) (unlimited : s.broadcaster.retention = 0)
    (calls : List (Call × Timestamp)) (fresh : (calls.flatMap (·.1.accepted)).Nodup) (first second : JobId)
    (different : first ≠ second) (now later then' afterwards : Timestamp) :
    let reached := (Shop.run ⟨s, []⟩ calls).state.service
    Live reached.queue (some first) → Live reached.queue (some second) →
    let one := reached.requestCancel (some first) now
    let both := one.state.requestCancel (some second) later
    let other := reached.requestCancel (some second) then'
    let swapped := other.state.requestCancel (some first) afterwards
    kindOf one.answer = kindOf swapped.answer ∧ kindOf both.answer = kindOf other.answer ∧
      (∀ fault, kindOf one.answer ≠ .refused fault ∧ kindOf both.answer ≠ .refused fault) ∧
      both.state.queue = swapped.state.queue ∧ both.state.view = swapped.state.view ∧
      ∀ id : Option JobId, (both.state.poll id).map timeless = (swapped.state.poll id).map timeless := by
  intro service live alsoLive one both other swapped
  obtain ⟨lined, led, kept⟩ := reached s empty calls fresh
  have commute := commute now later then' afterwards lined different live alsoLive
  have somebody : service.queue.pending ≠ [] := by
    intro nobody
    simp only [Live, waitingIds, nobody, List.map_nil, List.not_mem_nil, or_false] at live alsoLive
    exact different (Option.some.inj (live.symm.trans alsoLive))
  have shows := showsSame_publishAll (kept.trans unlimited) (led somebody) (cancelBoth_idle lined first second now later)
    (cancelBoth_idle lined second first then' afterwards) commute.told
  have bothShown : both.state.broadcaster =
      service.broadcaster.publishAll (cancelBoth service.queue first second now later).published :=
    (publishAll_append ..).symm
  have swappedShown : swapped.state.broadcaster =
      service.broadcaster.publishAll (cancelBoth service.queue second first then' afterwards).published :=
    (publishAll_append ..).symm
  have answers := Prod.mk.inj commute.answer
  refine ⟨answers.1, answers.2, commute.found, commute.state, congrArg Queue.view commute.state, fun id => ?_⟩
  rw [← bothShown, ← swappedShown] at shows
  exact shows.poll id

/-- One job is exported, and four others wait behind it. -/
def fourWait : List (Call × Timestamp) :=
  [.move (.accept ⟨"a"⟩ default), .move (.accept ⟨"b"⟩ default), .move (.accept ⟨"c"⟩ default),
    .move (.accept ⟨"d"⟩ default), .move (.accept ⟨"e"⟩ default), .move .startWorker, .move .check, .move .seek,
    .move .begin].map (·, default)

theorem cancels_commute_four_wait :
    let reached := (Shop.run ⟨{ broadcaster := { retention := 0 } }, []⟩ fourWait).state.service
    let cancelled (first second : JobId) :=
      ((reached.requestCancel (some first) default).state.requestCancel (some second) default).state
    Live reached.queue (some ⟨"a"⟩) ∧ Live reached.queue (some ⟨"b"⟩) ∧ Live reached.queue (some ⟨"d"⟩) ∧
      (∃ shown, ((cancelled ⟨"b"⟩ ⟨"d"⟩).poll (some ⟨"e"⟩)).map timeless = some shown ∧ shown.queuePosition = some 2 ∧
        ((cancelled ⟨"d"⟩ ⟨"b"⟩).poll (some ⟨"e"⟩)).map timeless = some shown) ∧
      (cancelled ⟨"a"⟩ ⟨"b"⟩).queue = (cancelled ⟨"b"⟩ ⟨"a"⟩).queue := by
  intro reached cancelled
  have live : Live reached.queue (some ⟨"a"⟩) ∧ Live reached.queue (some ⟨"b"⟩) ∧ Live reached.queue (some ⟨"d"⟩) := by
    unfold Live
    decide
  obtain ⟨active, waits, waitsToo⟩ := live
  have commute := cancels_commute { broadcaster := { retention := 0 } } ⟨rfl, rfl, rfl, rfl, rfl, rfl⟩ rfl fourWait
    (by decide)
  obtain ⟨-, -, -, -, -, polled⟩ := commute ⟨"b"⟩ ⟨"d"⟩ (by decide) default default default default waits waitsToo
  obtain ⟨-, -, -, queue, -⟩ := commute ⟨"a"⟩ ⟨"b"⟩ (by decide) default default default default active waits
  have shown := (polled (some ⟨"e"⟩)).symm
  exact ⟨active, waits, waitsToo, ⟨_, rfl, rfl, shown⟩, queue⟩

end BookExport.Proofs.CommutingCancels
