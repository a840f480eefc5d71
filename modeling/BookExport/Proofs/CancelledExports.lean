import BookExport.Proofs.ExporterOutcome
import BookExport.Proofs.FlightOrder
import BookExport.Proofs.QueueMoves
import BookExport.Service.Exporting

/-! An export whose job is cancelled before its exit is seen. It reports what was read until then and nothing else, it
never succeeds, and its job ends as cancelled. -/

namespace BookExport.Proofs.CancelledExports
open Exporter ExporterOutcome JobPlacement SequentialReports FlightSteps FlightOrder

/-- A session whose job was cancelled, and the lines that were there after that. -/
def late (s : Session) (lines : Transcript) : Session :=
  { s with isCancelled := true, stopped := if lines.isEmpty then none else some .cancelled }

private theorem late_nil {s : Session} (told : s.isCancelled = true) (running : s.stopped = none) : late s [] = s := by
  cases s
  cases told
  cases running
  rfl

private theorem late_cons {s : Session} (told : s.isCancelled = true) (line : List UInt8) (rest : Transcript) :
    late s (line :: rest) = { s with stopped := some .cancelled } := by
  cases s
  cases told
  rfl

private theorem step_cancelled {s : Session} (running : s.stopped = none) : s.step .cancelled = late s [] := by
  cases s
  cases running
  rfl

theorem step_stopped {s : Session} (stopped : s.stopped.isSome = true) (e : Event) : s.step e = s := if_pos stopped

private theorem step_late {line : List UInt8} {s : Session} (text : isText line = true) (running : s.stopped = none)
    (cancelled : s.isCancelled = true) : s.step (.printed line) = { s with stopped := some .cancelled } := by
  unfold isText at text
  unfold Session.step Session.readLine
  cases decoded : Text.Utf8.decode line with
  | error fault => simp [decoded, Except.isOk, Except.toBool] at text
  | ok cs => simp only [running, decoded, cancelled, Option.isSome_none, Bool.false_eq_true, ↓reduceIte]

theorem updates_step (s : Session) (line : List UInt8) :
    ∃ more, (s.step (.printed line)).updates = s.updates ++ more := by
  have same : ∃ more, s.updates = s.updates ++ more := ⟨[], (List.append_nil _).symm⟩
  by_cases stopped : s.stopped.isSome = true
  · rwa [step_stopped stopped]
  · rw [Session.step, if_neg stopped]
    simp only [Session.readLine]
    split
    · exact same
    · split
      · exact same
      · split
        next message _ => exact ⟨_, (Heard.hear s message).updates⟩
        next => exact same

/-- Happenings in which only the exporter reports, and does not end. -/
def Foreign (happenings : Happenings) : Prop :=
  ∀ move now, (.moved move, now) ∈ happenings → move.isExports = false

private theorem reported_of_foreign {move : Move} (foreign : move.isExports = false) : move.reported = [] := by
  cases move <;> first | rfl | cases foreign

/-- A job is being exported. -/
def Busy (token : CancelToken) (s : Service) : Prop :=
  ∃ job began sent published, Aloft job token began none sent published s

theorem Busy.run {token : CancelToken} {s : Service} (busy : Busy token s) (moves : List (Move × Timestamp))
    (goesOn : ∀ made ∈ moves, ∀ result, made.1 ≠ .conclude result) : Busy token (s.run moves).state := by
  obtain ⟨job, began, sent, published, aloft⟩ := busy
  refine ⟨job, began, _, _, aloft.run moves fun made member => ?_⟩
  obtain ⟨move, now⟩ := made
  cases move with
  | conclude result => exact absurd rfl (goesOn _ member result)
  | _ => rfl

theorem Busy.isFlightCancelled {token : CancelToken} {s : Service} (busy : Busy token s) :
    s.isFlightCancelled = s.queue.signals.isCancelled token := by
  obtain ⟨job, began, sent, published, delivered, inbox, reference, worker, -⟩ := busy
  rw [Service.isFlightCancelled, worker]

section
variable {token : CancelToken} {x : Exporting}

theorem mem_movesOf {happening : Happening} {move : Move} (member : move ∈ x.movesOf happening) :
    (∃ update, move = .report update) ∨ happening = .moved move := by
  cases happening with
  | moved other =>
    rw [List.mem_singleton.mp member]
    exact Or.inr rfl
  | printed line =>
    obtain ⟨update, -, rfl⟩ := List.mem_map.mp member
    exact Or.inl ⟨update, rfl⟩

private theorem mem_moves {happenings : Happenings} {made : Move × Timestamp} (member : made ∈ x.moves happenings) :
    (∃ update, made.1 = .report update) ∨ (.moved made.1, made.2) ∈ happenings := by
  induction happenings generalizing x with
  | nil => cases member
  | cons first rest ih =>
    rcases List.mem_append.mp member with now | later
    · obtain ⟨move, inside, rfl⟩ := List.mem_map.mp now
      exact (mem_movesOf inside).imp_right fun same => by simp [← same]
    · exact (ih later).imp_right (List.mem_cons_of_mem first)

theorem busy_step (busy : Busy token x.service) (happening : Happening) (now : Timestamp)
    (foreign : ∀ move, happening = .moved move → move.isExports = false) :
    Busy token (x.step happening now).service := by
  have next : Busy token (x.service.run ((x.movesOf happening).map (·, now))).state := by
    apply busy.run
    rintro made member result same
    obtain ⟨move, inside, rfl⟩ := List.mem_map.mp member
    obtain rfl : move = .conclude result := same
    obtain ⟨update, other⟩ | moved := mem_movesOf inside
    · cases other
    · cases foreign _ moved
  cases happening <;> exact next

private theorem reports_queue (s : Service) (updates : List ProgressUpdate) (now : Timestamp) :
    (s.run ((updates.map Move.report).map (·, now))).state.queue = s.queue := by
  induction updates generalizing s with
  | nil => rfl
  | cons update rest ih =>
    refine (ih (s.report update)).trans ?_
    unfold Service.report
    split
    · split <;> rfl
    · rfl

theorem cancelled_step (cancelled : x.service.queue.signals.isCancelled token = true) (happening : Happening)
    (now : Timestamp) : (x.step happening now).service.queue.signals.isCancelled token = true := by
  have next := QueueMoves.cancelled_run cancelled ((x.movesOf happening).map (·, now))
  cases happening <;> exact next

theorem lines_cancelled (busy : Busy token x.service) (cancelled : x.service.queue.signals.isCancelled token = true)
    (happenings : Happenings) (foreign : Foreign happenings) : x.linesWhile false happenings = [] := by
  induction happenings generalizing x with
  | nil => rfl
  | cons first rest ih =>
    obtain ⟨happening, now⟩ := first
    have later := ih (busy_step busy happening now fun move same => foreign move now (by simp [same]))
      (cancelled_step cancelled happening now) (fun move now inside => foreign move now (List.mem_cons_of_mem _ inside))
    cases happening with
    | moved move => exact later
    | printed line => simp only [Exporting.linesWhile, busy.isFlightCancelled, cancelled, later, Bool.true_eq_false,
        ↓reduceIte]

theorem run_stopped (stopped : x.session.stopped.isSome = true) (happenings : Happenings) :
    (x.run happenings).session = x.session := by
  induction happenings generalizing x with
  | nil => rfl
  | cons first rest ih =>
    obtain ⟨happening, now⟩ := first
    have same : (x.step happening now).session = x.session := by
      cases happening with
      | moved move => simp only [Exporting.step, step_stopped stopped, ite_self]
      | printed line => exact step_stopped stopped (.printed line)
    exact (ih (by rwa [same])).trans same

/-- Once the job is cancelled, the next line stops the exporter. -/
theorem late_run (busy : Busy token x.service) (cancelled : x.service.queue.signals.isCancelled token = true)
    (told : x.session.isCancelled = true) (running : x.session.stopped = none) (happenings : Happenings)
    (foreign : Foreign happenings) (text : ∀ line ∈ (x.linesWhile true happenings).head?, isText line = true) :
    (x.run happenings).session = late x.session (x.linesWhile true happenings) := by
  induction happenings generalizing x with
  | nil => exact (late_nil told running).symm
  | cons first rest ih =>
    obtain ⟨happening, now⟩ := first
    have nextBusy := busy_step busy happening now fun move same => foreign move now (by simp [same])
    have nextCancelled := cancelled_step cancelled happening now
    cases happening with
    | moved move =>
      have next : (x.step (.moved move) now).session = x.session := by
        simp only [Exporting.step, step_cancelled running, late_nil told running, ite_self]
      have later := ih nextBusy nextCancelled (next ▸ told) (next ▸ running)
        (fun move now inside => foreign move now (List.mem_cons_of_mem _ inside)) text
      rw [next] at later
      exact later
    | printed line =>
      have lines : x.linesWhile true ((.printed line, now) :: rest) =
          line :: (x.step (.printed line) now).linesWhile true rest := by
        simp only [Exporting.linesWhile, busy.isFlightCancelled, cancelled, ↓reduceIte]
      rw [lines] at text ⊢
      have stops : (x.step (.printed line) now).session = { x.session with stopped := some .cancelled } :=
        step_late (text line rfl) running told
      rw [Exporting.run, run_stopped (by rw [stops]; rfl), stops, late_cons told]

/-- Until the job is cancelled, the exporter is heard; from then on it is late. -/
theorem early_run (busy : Busy token x.service) (wanted : x.service.queue.signals.isCancelled token = false)
    (untold : x.session.isCancelled = false) (running : x.session.stopped = none) (happenings : Happenings)
    (foreign : Foreign happenings) (earlyText : (x.linesWhile false happenings).IsText)
    (lateText : ∀ line ∈ (x.linesWhile true happenings).head?, isText line = true)
    (cancelled : (x.run happenings).service.isFlightCancelled = true) :
    ∃ heard, Heard x.session heard (x.linesWhile false happenings).messages ∧
      (x.run happenings).session = late heard (x.linesWhile true happenings) := by
  induction happenings generalizing x with
  | nil =>
    rw [Exporting.run, busy.isFlightCancelled, wanted] at cancelled
    cases cancelled
  | cons first rest ih =>
    obtain ⟨happening, now⟩ := first
    have nextBusy := busy_step busy happening now fun move same => foreign move now (by simp [same])
    have foreignRest : Foreign rest := fun move now inside => foreign move now (List.mem_cons_of_mem _ inside)
    cases happening with
    | moved move =>
      cases after : (x.step (.moved move) now).service.queue.signals.isCancelled token with
      | false =>
        rw [← nextBusy.isFlightCancelled] at after
        have next : (x.step (.moved move) now).session = x.session := if_neg (Bool.eq_false_iff.mp after)
        rw [nextBusy.isFlightCancelled] at after
        have later := ih nextBusy after (next ▸ untold) (next ▸ running) foreignRest earlyText lateText cancelled
        rwa [next] at later
      | true =>
        have next : (x.step (.moved move) now).session = late x.session [] := by
          rw [← nextBusy.isFlightCancelled] at after
          exact (if_pos after).trans (step_cancelled running)
        have quiet : x.linesWhile false ((.moved move, now) :: rest) = [] :=
          lines_cancelled nextBusy after rest foreignRest
        have session := late_run nextBusy after (by rw [next]; rfl) (by rw [next]; rfl) rest foreignRest lateText
        refine ⟨x.session, ?_, ?_⟩
        · rw [quiet]
          exact Heard.refl _
        · rw [Exporting.run, session, next]
          rfl
    | printed line =>
      have queue : (x.step (.printed line) now).service.queue = x.service.queue := reports_queue ..
      have lines (isCancelled : Bool) : x.linesWhile isCancelled ((.printed line, now) :: rest) =
          if false = isCancelled then line :: (x.step (.printed line) now).linesWhile isCancelled rest
          else (x.step (.printed line) now).linesWhile isCancelled rest := by
        simp only [Exporting.linesWhile, busy.isFlightCancelled, wanted]
      rw [lines, if_pos rfl] at earlyText ⊢
      rw [lines, if_neg (by simp)] at lateText ⊢
      have heard := heard_printed (earlyText line List.mem_cons_self) running untold
      obtain ⟨last, later, session⟩ := ih nextBusy (queue ▸ wanted) (heard.isCancelled.trans untold)
        (heard.stopped.trans running) foreignRest (fun other inside => earlyText other (List.mem_cons_of_mem _ inside))
        lateText cancelled
      refine ⟨last, ?_, session⟩
      rw [messages_cons]
      exact heard.trans later

/-- The export reports the updates that its session takes in. -/
private theorem reports_session (happenings : Happenings) (foreign : Foreign happenings) :
    (x.run happenings).session.updates = x.session.updates ++ (x.moves happenings).flatMap (·.1.reported) := by
  induction happenings generalizing x with
  | nil => exact (List.append_nil _).symm
  | cons first rest ih =>
    obtain ⟨happening, now⟩ := first
    have reported : (x.step happening now).session.updates =
        x.session.updates ++ ((x.movesOf happening).map (·, now)).flatMap (·.1.reported) := by
      cases happening with
      | moved move =>
        have silent := reported_of_foreign (foreign move now List.mem_cons_self)
        simp only [Exporting.step, Exporting.movesOf, List.map_cons, List.map_nil, List.flatMap_cons, List.flatMap_nil,
          silent, List.append_nil]
        split
        · unfold Session.step
          split <;> rfl
        · rfl
      | printed line =>
        obtain ⟨more, grown⟩ := updates_step x.session line
        simp only [Exporting.step, Exporting.movesOf, grown, List.drop_left]
        simp [List.flatMap_map, Move.reported]
    rw [Exporting.run, Exporting.moves, List.flatMap_append, ← List.append_assoc, ← reported]
    exact ih fun move now inside => foreign move now (List.mem_cons_of_mem _ inside)

end

/-- An exporter that is late returns no outputs. -/
private theorem result_late {t : Transcript} {s : Session} (heard : Heard {} s t.messages) (lines : Transcript) (exit : Ending) :
    (late s lines).result exit =
      .error (if lines.isEmpty then t.errors.getLast?.getD .cancelled else .cancelled) := by
  have reported : s.reported = t.errors.getLast? := heard.reported.trans (Option.or_none ..)
  cases lines with
  | cons line rest => rfl
  | nil =>
    simp only [late, Session.result, reported, List.isEmpty_nil, ↓reduceIte]
    cases t.errors.getLast? <;> rfl

/-- A job whose export is the work of an exporter, from its start on. -/
structure Exported (s : Service) extends Passage where
  waiting : List (Move × Timestamp)
  happenings : Happenings
  exit : Ending
  waited : ∀ made ∈ waiting, made.1.isExports = false
  foreign : Foreign happenings
  exports : flight =
    waiting ++ (Exporting.start (s.run (before ++ (.begin, began) :: waiting)).state).moves happenings
  returns : result = .ofExcept
    (((Exporting.start (s.run (before ++ (.begin, began) :: waiting)).state).run happenings).session.result exit)

namespace Exported
variable {s : Service} (e : Exported s)

def atStart : Exporting := .start (s.run (e.before ++ (.begin, e.began) :: e.waiting)).state

def atExit : Exporting := e.atStart.run e.happenings

/-- The lines that are there before the job is cancelled. -/
def early : Transcript := e.atStart.linesWhile false e.happenings

/-- The lines that are there from then on. -/
def tooLate : Transcript := e.atStart.linesWhile true e.happenings

end Exported

section
variable {s : Service} {claim : Claim} {e : Exported s}

private theorem busy_atStart (claimed : s.worker = .claimed claim) : Busy claim.token e.atStart.service := by
  have begun : Busy claim.token (s.run (e.before ++ [(.begin, e.began)])).state :=
    ⟨_, _, _, _, (begun_aloft e.toPassage claimed).1⟩
  have waited := begun.run e.waiting fun made member result same => by
    have others := e.waited made member
    rw [same] at others
    cases others
  rw [← (s.run_append ..).1] at waited
  simpa [Exported.atStart, Exporting.start] using waited

private theorem session_atExit (claimed : s.worker = .claimed claim) (earlyText : e.early.IsText)
    (lateText : ∀ line ∈ e.tooLate.head?, isText line = true) (cancelled : e.atExit.service.isFlightCancelled = true) :
    e.atExit.session.updates = e.early.updates ∧ e.atExit.session.result e.exit =
      .error (if e.tooLate.isEmpty then e.early.errors.getLast?.getD .cancelled else .cancelled) := by
  have busy := busy_atStart (e := e) claimed
  cases atOnce : e.atStart.service.isFlightCancelled with
  | true =>
    have session : e.atStart.session = { isCancelled := true, stopped := some .cancelled } := if_pos atOnce
    have none : e.early = [] := lines_cancelled busy (busy.isFlightCancelled.symm.trans atOnce) e.happenings e.foreign
    rw [Exported.atExit, run_stopped (by rw [session]; rfl), session, none]
    exact ⟨rfl, by split <;> rfl⟩
  | false =>
    have session : e.atStart.session = {} := if_neg (Bool.eq_false_iff.mp atOnce)
    obtain ⟨heard, told, late⟩ := early_run busy (busy.isFlightCancelled.symm.trans atOnce) (by rw [session])
      (by rw [session]) e.happenings e.foreign earlyText lateText cancelled
    rw [session] at told
    rw [Exported.atExit, late]
    exact ⟨told.updates, result_late told e.tooLate e.exit⟩

private theorem reported_flight (e : Exported s) :
    e.flight.flatMap (·.1.reported) = e.atExit.session.updates := by
  have waiting : e.waiting.flatMap (·.1.reported) = [] :=
    List.flatMap_eq_nil_iff.mpr fun made member => reported_of_foreign (e.waited made member)
  have none : e.atStart.session.updates = [] := by
    show (Session.start _).updates = []
    unfold Session.start
    split <;> rfl
  have reports := reports_session (x := e.atStart) e.happenings e.foreign
  rw [none, List.nil_append] at reports
  rw [e.exports, List.flatMap_append, waiting, List.nil_append]
  exact reports.symm

private theorem service_atExit (e : Exported s) :
    e.atExit.service = ((s.run (e.before ++ [(.begin, e.began)])).state.run e.flight).state := by
  rw [Exported.atExit, Exporting.service_run, Exported.atStart, Exporting.start, ← (s.run_append ..).1,
    ← (s.run_append ..).1, e.exports]
  simp [Exporting.start]

private theorem cancelled_flown (claimed : s.worker = .claimed claim) (cancelled : e.atExit.service.isFlightCancelled = true) :
    (s.run e.flown).state.queue.signals.isCancelled claim.token = true := by
  have begun : Busy claim.token (s.run (e.before ++ [(.begin, e.began)])).state :=
    ⟨_, _, _, _, (begun_aloft e.toPassage claimed).1⟩
  have busy := begun.run e.flight e.unconcluded
  rw [service_atExit, busy.isFlightCancelled] at cancelled
  have later := QueueMoves.cancelled_run cancelled
    ((.conclude e.result, e.concluded) :: (e.landing ++ e.drained.map fun now => (.deliver, now)))
  rw [← (s.run_append ..).1, ← (s.run_append ..).1] at later
  simpa [Passage.flown, Passage.sending] using later

end

private theorem release_tells {s : Service} {job : Job} {error : Option JobError} (worker : s.worker = .settled ⟨job, error⟩)
    (now : Timestamp) :
    (s.release now).answer = some job ∧ ∃ slowAfter, .jobEnded job error slowAfter ∈ (s.release now).state.telemetry := by
  refine ⟨?_, s.settings.slowAfter, ?_⟩
  · simp only [Service.release, worker]
  · simp only [Service.release, worker, List.mem_append, List.mem_singleton, or_true]

/-- Wherever between two lines, before the start or before the exit is seen its job is cancelled, and whatever is read
before: an exporter reports the updates read until then and no more, it returns that it was cancelled, or else the error
it told of before if it says nothing after that, and the job ends as cancelled and without an error. -/
theorem cancelled_export_is_cancelled (s : Service) (claim : Claim) (claimed : s.worker = .claimed claim)
    (e : Exported s) (earlyText : e.early.IsText) (lateText : ∀ line ∈ e.tooLate.head?, isText line = true)
    (cancelled : e.atExit.service.isFlightCancelled = true) :
    let released := (s.run (e.flown ++ e.ending)).state.release e.released
    e.flight.flatMap (·.1.reported) = e.early.updates ∧
      e.result = .failed (if e.tooLate.isEmpty then e.early.errors.getLast?.getD .cancelled else .cancelled) ∧
      ∃ delivered final job slowAfter, delivered.map Prod.fst = e.early.updates ∧
        s.own (e.flown ++ e.ending) =
          .starting claim.job e.began :: (reported claim.job e.began delivered).published ++ [final] ∧
        final.status = .cancelled ∧ final.error = none ∧ released.answer = some job ∧ job.status = .cancelled ∧
        .jobEnded job none slowAfter ∈ released.state.telemetry := by
  obtain ⟨updates, returned⟩ := session_atExit claimed earlyText lateText cancelled
  have sends : e.flight.flatMap (·.1.reported) = e.early.updates := (reported_flight e).trans updates
  have result : e.result = .failed (if e.tooLate.isEmpty then e.early.errors.getLast?.getD .cancelled else .cancelled) :=
    e.returns.trans (congrArg ExportResult.ofExcept returned)
  obtain ⟨settled, delivered, last, sent, follows, own⟩ := flight_course e.toPassage claimed
  have unfailed : (Snapshot.starting claim.job e.began).error = none := rfl
  obtain ⟨reference, alsoFollows, none⟩ := @recordAll_keeps (fun t => t.error = none) (fun _ _ _ held => held) _ unfailed
    claim.job.id delivered
  obtain rfl : reference = last := by
    rw [reported, alsoFollows] at follows
    cases follows
    rfl
  have verdict (error : ExportError) (canWrite : Bool) (now : Timestamp) (traceDir : Option String) :
      Verdict.ofResult claim.job (.error error) true traceDir canWrite now =
        { status := .cancelled, event := .cancelled } := by
    simp [Verdict.ofResult]
  rw [cancelled_flown claimed cancelled, result, ExportResult.toExcept, verdict] at settled own
  obtain ⟨answer, slowAfter, told⟩ := release_tells settled e.released
  exact ⟨sends, result, delivered, reference.after .cancelled e.ended, _, slowAfter, sent.trans sends, own, rfl, none,
    answer, rfl, told⟩

def errorLine : List UInt8 :=
  Text.Utf8.encode "\x7b\"type\":\"error\",\"code\":\"auth_error\",\"message\":\"\"\x7d".toList

def lastMinute : Happenings := [(.printed errorLine, default), (.moved (.cancel none), default)]

def begunService : Service := (claimedService.run [(.begin, default)]).state

theorem moved_lastMinute {move : Move} {now : Timestamp} (member : (.moved move, now) ∈ lastMinute) :
    move = .cancel none := by
  simp only [lastMinute, List.mem_cons, List.not_mem_nil, Prod.mk.injEq, reduceCtorEq, false_and, false_or, or_false,
    Happening.moved.injEq] at member
  exact member.1

private theorem goesOn_lastMinute : ∀ made ∈ (Exporting.start begunService).moves lastMinute,
    made.1 ≠ .release ∧ ∀ result, made.1 ≠ .conclude result := by
  intro made member
  obtain ⟨update, other⟩ | moved := mem_moves member
  · simp [other]
  · simp [moved_lastMinute moved]

private theorem silent_lastMinute : (((Exporting.start begunService).moves lastMinute).flatMap (·.1.reported)).length ≤ 0 := by
  decide +kernel

private theorem foreign_lastMinute : Foreign lastMinute := by
  intro move now member
  rw [moved_lastMinute member]
  rfl

/-- The exporter tells of an error, ends well nevertheless, and is cancelled before that is seen. -/
def lastMinutePassage : Passage :=
  .brief ((Exporting.start begunService).moves lastMinute)
    (.ofExcept (((Exporting.start begunService).run lastMinute).session.result ⟨.code 0, []⟩)) 0 true default
    goesOn_lastMinute silent_lastMinute

theorem begun_lastMinute : (claimedService.run (lastMinutePassage.before ++ [(.begin, lastMinutePassage.began)])).state =
    begunService := rfl

def cancelledAtLast : Exported claimedService where
  toPassage := lastMinutePassage
  waiting := []
  happenings := lastMinute
  exit := ⟨.code 0, []⟩
  waited := List.forall_mem_nil _
  foreign := foreign_lastMinute
  exports := by rw [begun_lastMinute]; rfl
  returns := by rw [begun_lastMinute]; rfl

theorem cancelled_export_is_cancelled_at_last :
    cancelledAtLast.early = [errorLine] ∧ cancelledAtLast.tooLate = [] ∧
      cancelledAtLast.result = .failed (.auth "") ∧
      ∃ final ∈ claimedService.own (cancelledAtLast.flown ++ cancelledAtLast.ending),
        final.status = .cancelled ∧ final.error = none := by
  have early : cancelledAtLast.early = [errorLine] := by decide +kernel
  have none : cancelledAtLast.tooLate = [] := by decide +kernel
  have text : Transcript.IsText [errorLine] := by unfold Transcript.IsText; decide +kernel
  have messages : Transcript.messages [errorLine] = [.error "auth_error" ""] := by decide +kernel
  obtain ⟨-, result, delivered, final, job, slowAfter, -, own, cancelled, unfailed, -⟩ :=
    cancelled_export_is_cancelled claimedService firstClaim rfl cancelledAtLast (early ▸ text) (by simp [none])
      (by decide +kernel)
  refine ⟨early, none, ?_, final, ?_, cancelled, unfailed⟩
  · rw [result, none, early, Transcript.errors, messages]
    rfl
  · rw [own]
    simp

end BookExport.Proofs.CancelledExports
