import BookExport.Proofs.BareServices
import BookExport.Proofs.JobIsolation
import BookExport.Proofs.KeptValues
import BookExport.Proofs.SnapshotForms

/-! Where traces go, whether they can be written, and after which time a job counts as slow, shows in nothing but the
details of failures. There, the path of a trace is added to what the error has to say anyway. -/

namespace BookExport.Proofs.UnseenSettings
open QueuePositions ServiceDeeds ActivePlace FlightOrder LoneFlights UntimedQueues UntimedStories BareServices SnapshotForms
open JobIsolation
open SequentialReports (recordAll_open open_starting)
open FlightSteps (reported)

/-- One job is exported twice in the same way, at different times, and perhaps its trace can be written only once. -/
structure SamePassage (p q : Passage) : Prop where
  before : SameMoves p.before q.before
  flight : SameMoves p.flight q.flight
  result : p.result = q.result
  landing : SameMoves p.landing q.landing
  drained : p.drained.length = q.drained.length
  verdict : SameMoves p.verdict q.verdict
  after : SameMoves p.after q.after

section
variable {p q : Passage}

theorem SamePassage.ended (same : SamePassage p q) : SameMoves (p.flown ++ p.ending) (q.flown ++ q.ending) := by
  have drained : SameMoves (p.drained.map fun now => (.deliver, now)) (q.drained.map fun now => (.deliver, now)) := by
    have received (times : List Timestamp) : (times.map fun now => (Move.deliver, now)).map (bareMove ·.1) =
        List.replicate times.length .deliver := by
      rw [List.map_map]
      exact List.map_const' ..
    rw [SameMoves, received, received, same.drained]
  have concluded : SameMoves [(.conclude p.result, p.concluded)] [(.conclude q.result, q.concluded)] :=
    .cons (congrArg (fun result => bareMove (.conclude result)) same.result) rfl
  have sent : SameMoves p.sending q.sending := (same.before.append (.cons rfl same.flight)).append concluded
  have flown : SameMoves p.flown q.flown := sent.append (same.landing.append drained)
  have sameMove : bareMove (.judge p.canWrite) = bareMove (.judge q.canWrite) := rfl
  have judged : SameMoves ((.judge p.canWrite, p.judged) :: p.verdict) ((.judge q.canWrite, q.judged) :: q.verdict) :=
    .cons sameMove same.verdict
  exact flown.append (judged.append (.cons rfl same.after))

theorem SamePassage.moves (same : SamePassage p q) : SameMoves p.moves q.moves :=
  same.ended.append (.cons rfl rfl)

end

/-- Snapshots that differ in nothing but their time and, when they tell of a failure, in the details of its error. -/
structure SameButDetails (s t : Snapshot) : Prop where
  fields : { timeless s with error := none } = { timeless t with error := none }
  block : s.error.map bareError = t.error.map bareError
  details : s.status ≠ .failed → s.error = t.error

private theorem sameButDetails {s t : Snapshot} (alike : bareSnapshot s = bareSnapshot t) (form : WellFormed s)
    (formToo : WellFormed t) : SameButDetails s t := by
  have block : s.error.map bareError = t.error.map bareError := congrArg Snapshot.error alike
  have status : s.status = t.status := show (bareSnapshot s).status = (bareSnapshot t).status by rw [alike]
  refine ⟨congrArg (fun s => { s with error := none }) alike, block, fun unfailed => ?_⟩
  have unblamed {s : Snapshot} (form : WellFormed s) (unfailed : s.status ≠ .failed) : s.error = none := by
    rw [← Option.not_isSome_iff_eq_none]
    exact fun blamed => unfailed (form.failed.mp blamed)
  rw [unblamed form unfailed, unblamed formToo (status ▸ unfailed)]

private theorem sameButDetails_of_map {left right : List Snapshot} (alike : left.map bareSnapshot = right.map bareSnapshot)
    (forms : ∀ s ∈ left, WellFormed s) (formsToo : ∀ s ∈ right, WellFormed s) : List.Forall₂ SameButDetails left right := by
  induction left generalizing right with
  | nil =>
    obtain rfl := List.map_eq_nil_iff.mp alike.symm
    exact .nil
  | cons s rest ih =>
    obtain ⟨t, others, rfl, same, behind⟩ := List.map_eq_cons_iff.mp alike.symm
    refine .cons (sameButDetails same.symm (forms s List.mem_cons_self) (formsToo t List.mem_cons_self)) ?_
    exact ih behind.symm (fun u member => forms u (List.mem_cons_of_mem _ member))
      fun u member => formsToo u (List.mem_cons_of_mem _ member)

/-- A numbered line and a tracked snapshot of good form stay so, and all that is told is of good form. -/
theorem forms_run {s : Service} (numbered : (lineOf s.queue).Numbered) (tracks : Tracks s.tracker.current)
    (moves : List (Move × Timestamp)) :
    (lineOf (s.run moves).state.queue).Numbered ∧ Tracks (s.run moves).state.tracker.current ∧
      ∀ shown ∈ (s.run moves).published, WellFormed shown := by
  induction moves generalizing s with
  | nil => exact ⟨numbered, tracks, by simp [Service.run]⟩
  | cons made rest ih =>
    have deed := step_deed s made.1 made.2 numbered
    obtain ⟨tracksLater, told⟩ := wellFormed_deed deed tracks
    obtain ⟨last, lastTracks, toldLater⟩ := ih (numbered_deed deed numbered) tracksLater
    refine ⟨last, lastTracks, fun shown member => ?_⟩
    rcases List.mem_append.mp member with earlier | later
    · exact told shown earlier
    · exact toldLater shown later

/-- Details to which the path of a trace was added. -/
structure Names (path : String) (details : Option Json) (members : List (String × Json)) : Prop where
  named : ("trace_log", .str path) ∈ members
  kept : ∀ original, details = some (.obj original) → ∀ member ∈ original, member.1 ≠ "trace_log" → member ∈ members
  wrapped : ∀ value, details = some value → (∀ original, value ≠ .obj original) → ("detail", value) ∈ members
  others : ∀ member ∈ members, member = ("trace_log", .str path) ∨
    (∃ original, details = some (.obj original) ∧ member ∈ original) ∨
    ∃ value, details = some value ∧ member = ("detail", value)

private theorem setMember_self (key : String) (value : Json) (members : List (String × Json)) :
    (key, value) ∈ Json.setMember key value members := by
  induction members with
  | nil => exact List.mem_singleton_self _
  | cons head rest ih =>
    obtain ⟨name, other⟩ := head
    unfold Json.setMember
    split
    · exact List.mem_cons_self
    · split
      · exact List.mem_cons_self
      · exact List.mem_cons_of_mem _ ih

private theorem setMember_other {key : String} (value : Json) {members : List (String × Json)} {member : String × Json}
    (inside : member ∈ members) (other : member.1 ≠ key) : member ∈ Json.setMember key value members := by
  induction members with
  | nil => cases inside
  | cons head rest ih =>
    obtain ⟨name, held⟩ := head
    unfold Json.setMember
    split
    · exact List.mem_cons_of_mem _ inside
    · split
      next same =>
        rcases List.mem_cons.mp inside with rfl | behind
        · exact absurd same.symm other
        · exact List.mem_cons_of_mem _ behind
      next =>
        rcases List.mem_cons.mp inside with rfl | behind
        · exact List.mem_cons_self
        · exact List.mem_cons_of_mem _ (ih behind)

private theorem names_nameIn (path : String) (details : Option Json) :
    ∃ members, Trace.nameIn path details = .obj members ∧ Names path details members := by
  have wraps {value : Json} (other : ∀ original, value ≠ .obj original) :
      Names path (some value) [("detail", value), ("trace_log", .str path)] := by
    refine ⟨by simp, fun original same => absurd (Option.some.inj same) (other original), ?_, ?_⟩
    · rintro value' same -
      obtain rfl := Option.some.inj same
      exact List.mem_cons_self
    · intro member inside
      rcases List.mem_cons.mp inside with rfl | last
      · exact Or.inr (Or.inr ⟨value, rfl, rfl⟩)
      · exact Or.inl (List.mem_singleton.mp last)
  cases details with
  | none =>
    exact ⟨_, rfl, List.mem_singleton_self _, nofun, nofun, fun member inside => Or.inl (List.mem_singleton.mp inside)⟩
  | some value =>
    cases value with
    | obj original =>
      refine ⟨_, rfl, setMember_self .., ?_, fun value same other => absurd (Option.some.inj same).symm (other original), ?_⟩
      · intro members same member inside other
        obtain rfl := Json.obj.inj (Option.some.inj same)
        exact setMember_other _ inside other
      · intro member inside
        exact (KeptValues.mem_setMember inside).imp_right fun old => Or.inl ⟨original, rfl, old⟩
    | null | bool | int | real | str | arr => exact ⟨_, rfl, wraps nofun⟩

/-- What the block of a failure says of its error. If a trace was written, its path in the directory of traces is there
as well. -/
structure Blames (error : ExportError) (dir : Option String) (written : Option Trace) (block : JobError) : Prop where
  code : block.code = error.code
  message : block.message = error.message
  untraced : written = none → block.details = error.details
  traced : ∀ trace, written = some trace → ∃ place members, dir = some place ∧ block.details = some (.obj members) ∧
    Names (trace.path place) error.details members

private theorem blames_failure (job : Job) (error : ExportError) (traceDir : Option String) (canWrite : Bool) (now : Timestamp) :
    ∃ block, (Verdict.failure job error traceDir canWrite now).event = .failed block ∧
      Blames error traceDir (Verdict.failure job error traceDir canWrite now).trace block := by
  unfold Verdict.failure
  simp only
  split
  next dir =>
    obtain ⟨members, same, names⟩ := names_nameIn ((Trace.ofFailure job error now).path dir) error.details
    refine ⟨_, rfl, rfl, rfl, ?_, ?_⟩
    · intro untraced
      cases untraced
    · intro trace written
      obtain rfl := Option.some.inj written
      exact ⟨dir, members, rfl, congrArg some same, names⟩
  next =>
    refine ⟨_, rfl, rfl, rfl, fun _ => rfl, ?_⟩
    intro trace written
    cases written

/-- The last that the worker tells of a passage is that its job has failed, and why. -/
def ToldToFail (s : Service) (p : Passage) (id : JobId) (error : ExportError) : Prop :=
  ∃ shown block, (s.own (p.flown ++ p.ending)).getLast? = some shown ∧ shown.jobId = id ∧ shown.status = .failed ∧
    shown.error = some block ∧
    Blames error s.settings.traceDir ((s.run p.flown).state.judge p.canWrite p.judged).answer block

private theorem failure_is_blamed {s : Service} {claim : Claim} (claimed : s.worker = .claimed claim) (p : Passage) {given : Job}
    (back : ((s.run (p.flown ++ p.ending)).state.release p.released).answer = some given) (failed : given.status = .failed) :
    ∃ error, p.result.toExcept = .error error ∧ ToldToFail s p claim.job.id error := by
  obtain ⟨settled, delivered, last, -, after, own⟩ := flight_course p claimed
  obtain ⟨same, follows, isOpen, -⟩ := recordAll_open (open_starting claim.job p.began) delivered
  obtain rfl : same = last := by
    rw [reported, follows] at after
    cases after
    rfl
  obtain ⟨-, -, -, flying, -⟩ := flown_aloft p claimed
  have written : ((s.run p.flown).state.judge p.canWrite p.judged).answer =
      (Verdict.ofResult claim.job p.result.toExcept ((s.run p.flown).state.queue.signals.isCancelled claim.token)
        (s.run p.flown).state.settings.traceDir p.canWrite p.judged).trace := by
    rw [Service.judge, flying]
  have gave := Option.some.inj ((release_answer settled p.released).symm.trans back)
  rw [← gave] at failed
  unfold ToldToFail
  rw [written]
  rw [settings_run] at failed own ⊢
  cases result : p.result.toExcept with
  | ok outputs => rw [result] at failed; cases failed
  | error error =>
    rw [result] at failed own
    simp only [Verdict.ofResult] at failed own ⊢
    split at failed
    · cases failed
    next uncancelled =>
      rw [if_neg uncancelled] at own ⊢
      obtain ⟨block, event, blames⟩ := blames_failure claim.job error s.settings.traceDir p.canWrite p.judged
      rw [event] at own
      have told : (s.own (p.flown ++ p.ending)).getLast? = some (same.after (.failed block) p.ended) := by
        rw [own, List.getLast?_append]
        rfl
      exact ⟨error, rfl, _, block, told, isOpen.about, rfl, rfl, blames⟩

theorem gives_back {s : Service} {claim : Claim} (claimed : s.worker = .claimed claim) (p : Passage) :
    ∃ given, ((s.run (p.flown ++ p.ending)).state.release p.released).answer = some given ∧ given.id = claim.job.id :=
  ⟨_, release_answer (flight_course p claimed).1 p.released, rfl⟩

/-- Whatever happened before, and whatever the worker is told about traces and slow jobs: if a claimed job is exported in
the same way, the same is told of every job, but for times and for the details of failures. The job is given back in the
same status, and the queue is left the same. If the job has failed, then the code and the message are those of the error with
which its export ended, and the details are its own, with the path of the trace if one was written. -/
theorem settings_are_unseen (s : Service) (empty : s.Empty) (moves : List (Move × Timestamp)) (claim : Claim)
    (claimed : (s.run moves).state.worker = .claimed claim) (one two : WorkerSettings) (p q : Passage)
    (same : SamePassage p q) :
    let left := { (s.run moves).state with settings := one }
    let right := { (s.run moves).state with settings := two }
    List.Forall₂ SameButDetails (left.run p.moves).published (right.run q.moves).published ∧
    List.Forall₂ SameButDetails (left.own p.moves) (right.own q.moves) ∧
    bareQueue (left.run p.moves).state.queue = bareQueue (right.run q.moves).state.queue ∧
    ∃ given back, ((left.run (p.flown ++ p.ending)).state.release p.released).answer = some given ∧
      ((right.run (q.flown ++ q.ending)).state.release q.released).answer = some back ∧
      given.id = claim.job.id ∧ untimed given = untimed back ∧ given.status = back.status ∧
      (given.status = .failed → ∃ error, p.result.toExcept = .error error ∧ ToldToFail left p claim.job.id error ∧
        ToldToFail right q claim.job.id error) := by
  intro left right
  have numbered : (lineOf s.queue).Numbered := by rw [empty.queue]; trivial
  have tracks : Tracks s.tracker.current := by simp [Tracks, empty.tracker]
  obtain ⟨reached, reachedTracks, -⟩ := forms_run numbered tracks moves
  have alike : bareService left = bareService right := rfl
  obtain ⟨whole, own⟩ := bare_run alike same.moves
  obtain ⟨state, -, published⟩ := bare_parts whole
  obtain ⟨ended, -⟩ := bare_run alike same.ended
  obtain ⟨ended, -, -⟩ := bare_parts ended
  have forms := (forms_run (s := left) reached reachedTracks p.moves).2.2
  have formsToo := (forms_run (s := right) reached reachedTracks q.moves).2.2
  have ownForms : ∀ shown ∈ left.own p.moves, WellFormed shown :=
    fun shown member => forms shown (left.own_subset p.moves member)
  have ownFormsToo : ∀ shown ∈ right.own q.moves, WellFormed shown :=
    fun shown member => formsToo shown (right.own_subset q.moves member)
  have claimedLeft : left.worker = .claimed claim := claimed
  have claimedRight : right.worker = .claimed claim := claimed
  obtain ⟨given, gave, named⟩ := gives_back claimedLeft p
  obtain ⟨back, gaveToo, -⟩ := gives_back claimedRight q
  have answers : untimed given = untimed back := by
    have released := bare_released ended p.released q.released
    rw [gave, gaveToo] at released
    exact Option.some.inj released
  have status : given.status = back.status := show (untimed given).status = (untimed back).status by rw [answers]
  refine ⟨sameButDetails_of_map published forms formsToo, sameButDetails_of_map own ownForms ownFormsToo,
    congrArg Service.queue state, given, back, gave, gaveToo, named, answers, status, fun failed => ?_⟩
  obtain ⟨error, result, told⟩ := failure_is_blamed claimedLeft p gave failed
  obtain ⟨other, resultToo, toldToo⟩ := failure_is_blamed claimedRight q gaveToo (status ▸ failed)
  obtain rfl : error = other := Except.error.inj (result.symm.trans ((congrArg _ same.result).trans resultToo))
  exact ⟨error, result, told, toldToo⟩

def oneLooked : List (Move × Timestamp) := [.accept ⟨"a"⟩ default, .startWorker, .check, .seek].map (·, default)

def fails (canWrite : Bool) (now : Timestamp) : Passage :=
  .brief [] (.failed (.validation "no_pages" "nothing to export" (some (.obj [("page", .int 3)])))) 0 canWrite now (by simp)
    (by simp)

theorem settings_are_unseen_untraced :
    let traced : WorkerSettings := { traceDir := some "/traces", slowAfter := 0 }
    let left := { (Service.run {} oneLooked).state with settings := traced }
    let right := { (Service.run {} oneLooked).state with settings := {} }
    left.worker = .claimed firstClaim ∧ SamePassage (fails true default) (fails false default) ∧
      bareQueue (left.run (fails true default).moves).state.queue =
        bareQueue (right.run (fails false default).moves).state.queue ∧
      (∃ shown block members, (left.own ((fails true default).flown ++ (fails true default).ending)).getLast? = some shown ∧
        shown.error = some block ∧ block.code = "no_pages" ∧ block.details = some (.obj members) ∧
        ("page", .int 3) ∈ members ∧
        ∃ trace : Trace, ("trace_log", .str (trace.path "/traces")) ∈ members) ∧
      ∃ shown block, (right.own ((fails false default).flown ++ (fails false default).ending)).getLast? = some shown ∧
        shown.error = some block ∧ block.code = "no_pages" ∧ block.details = some (.obj [("page", .int 3)]) := by
  intro traced left right
  have same : SamePassage (fails true default) (fails false default) := ⟨rfl, rfl, rfl, rfl, rfl, rfl, rfl⟩
  obtain ⟨-, -, queue, given, back, gave, -, -, -, -, told⟩ := settings_are_unseen {} ⟨rfl, rfl, rfl, rfl, rfl, rfl⟩ oneLooked
    firstClaim rfl traced {} (fails true default) (fails false default) same
  have failed : given.status = .failed := by
    cases gave
    rfl
  obtain ⟨error, result, ⟨shown, block, last, -, -, blamed, blames⟩, shownToo, blockToo, lastToo, -, -, blamedToo, blamesToo⟩ :=
    told failed
  obtain rfl := Except.error.inj result
  have written : ∃ trace, ((left.run (fails true default).flown).state.judge true default).answer = some trace := ⟨_, rfl⟩
  obtain ⟨trace, written⟩ := written
  obtain ⟨place, members, kept, details, names⟩ := blames.traced trace written
  obtain rfl : "/traces" = place := Option.some.inj kept
  refine ⟨rfl, same, queue, ⟨shown, block, members, last, blamed, blames.code, details, ?_, trace, names.named⟩,
    shownToo, blockToo, lastToo, blamedToo, blamesToo.code, blamesToo.untraced rfl⟩
  exact names.kept _ rfl _ (List.mem_singleton_self _) (by decide)

end BookExport.Proofs.UnseenSettings
