import BookExport.Error
import BookExport.Moment
import BookExport.Transport

/-! Bounded retry of one unit of work. A transient failure is tried again after a fixed wait, as long as
attempts are left. Cancellation ends a wait and prevents an attempt; it never interrupts one. -/

namespace BookExport

structure RetryPolicy where
  /-- How many attempts there may be, the first one included. -/
  maxAttempts : UInt32
  /-- Milliseconds between the end of an attempt and the next. -/
  backoff : Nat
  deriving DecidableEq, Repr

inductive RetryDecision where
  | giveUp
  | retryAfter (millis : Nat)
  deriving DecidableEq, Repr

/-- One attempt: its result, its duration in milliseconds, and whether it ends with the cancellation of the
whole work. -/
structure Attempt (α : Type) where
  result : Except TransportFailure α
  duration : Nat := 0
  cancels : Bool := false

/-- When an attempt ends. One without duration needs no timer. -/
def Attempt.endsAt {α : Type} (a : Attempt α) (start : Moment) : Moment :=
  if a.duration = 0 then start else start.after a.duration

inductive RetryEvent where
  | attempted (number : Nat) (startedAt : Moment)
  /-- A timer that was set to `millis` milliseconds ended, or was given up, after `lasted`. -/
  | waited (millis lasted : Nat)
  deriving DecidableEq, Repr

/-- What became of the work, what happened on the way, and when it ended. -/
structure RetryRun (α : Type) where
  result : Except ExportError α
  events : List RetryEvent
  endedAt : Moment

namespace RetryRun

/-- How many attempts were made. -/
def attempts {α : Type} (run : RetryRun α) : Nat :=
  run.events.countP fun
    | .attempted .. => true
    | .waited .. => false

def before {α : Type} (events : List RetryEvent) (run : RetryRun α) : RetryRun α :=
  { run with events := events ++ run.events }

end RetryRun

namespace RetryPolicy

/-- `retries` attempts after the first one, as far as attempts can be counted. -/
def ofRetries (retries : UInt32) (backoff : Nat) : RetryPolicy :=
  ⟨if retries = 4294967295 then retries else retries + 1, backoff⟩

/-- The attempts after the first one. -/
def retries (p : RetryPolicy) : Nat := p.maxAttempts.toNat - 1

def standard : RetryPolicy := ofRetries 2 500

/-- Attempts are numbered from one. -/
def decide (p : RetryPolicy) (attempt : Nat) (kind : FailureKind) : RetryDecision :=
  if !kind.isTransient ∨ p.maxAttempts.toNat ≤ attempt then .giveUp else .retryAfter p.backoff

/-- The error of work that failed for good after `attempts` attempts. -/
def surface (failure : TransportFailure) (attempts : Nat) : ExportError :=
  match failure.kind with
  | .auth _ => .auth failure.message
  | .client status => .rejected status.toNat failure.message
  | _ => .network (failure.message ++ " (after " ++ Text.decimal attempts ++ " attempts)")

/-- The earlier of two cancellations. -/
def earlier : Option Moment → Option Moment → Option Moment
  | some a, some b => some (a.earlier b)
  | a, none => a
  | none, b => b

/-- Whether a cancellation has happened by `now`. -/
def isCancelledBy (cancelledAt : Option Moment) (now : Moment) : Bool := cancelledAt.any (· ≤ now)

theorem decide_retryAfter {p : RetryPolicy} {attempt : Nat} {kind : FailureKind} {wait : Nat}
    (h : p.decide attempt kind = .retryAfter wait) : attempt < p.maxAttempts.toNat ∧ wait = p.backoff := by
  unfold decide at h
  split at h
  · cases h
  next go =>
    cases h
    exact ⟨by omega, rfl⟩

/-- Continues with the attempt numbered `attempt` at the moment `now`. Work that was cancelled while it waited may look
only when its wait is over as well; `timerFirst` tells whether it then sees the end of the wait first, for the wait
behind each attempt. -/
def runFrom {α : Type} (p : RetryPolicy) (timerFirst : Nat → Bool) (work : Nat → Attempt α) (attempt : Nat)
    (now : Moment) (cancelledAt : Option Moment) : RetryRun α :=
  if isCancelledBy cancelledAt now then ⟨.error .cancelled, [], now⟩
  else
    let tried := work attempt
    let ended := tried.endsAt now
    let cancelledAt := if tried.cancels then earlier cancelledAt (some ended) else cancelledAt
    let event := RetryEvent.attempted attempt now
    match tried.result with
    | .ok value => ⟨.ok value, [event], ended⟩
    | .error failure =>
      match _h : p.decide attempt failure.kind with
      | .giveUp => ⟨.error (surface failure attempt), [event], ended⟩
      | .retryAfter wait =>
        let due := ended.after wait
        if isCancelledBy cancelledAt due ∧ timerFirst attempt = false then
          let stopped := ended.later (cancelledAt.getD ended)
          ⟨.error .cancelled, [event, .waited wait (stopped.millis - ended.millis)], stopped⟩
        else
          (runFrom p timerFirst work (attempt + 1) due cancelledAt).before [event, .waited wait wait]
termination_by p.maxAttempts.toNat - attempt
decreasing_by
  have := (decide_retryAfter _h).1
  omega

/-- Runs the work from the first moment on. `work n` is the attempt numbered `n`. A cancellation is seen at once. -/
def run {α : Type} (p : RetryPolicy) (work : Nat → Attempt α) (cancelledAt : Option Moment) : RetryRun α :=
  p.runFrom (fun _ => false) work 1 {} cancelledAt

/-- Runs the work when it may look late at its waits. -/
def race {α : Type} (p : RetryPolicy) (timerFirst : Nat → Bool) (work : Nat → Attempt α)
    (cancelledAt : Option Moment) : RetryRun α := p.runFrom timerFirst work 1 {} cancelledAt

/-- Requests until one succeeds. `answer n` is what comes back from the request numbered `n`. -/
def fetch (p : RetryPolicy) (answer : Nat → Attempt Response) (cancelledAt : Option Moment) : RetryRun Response :=
  p.run (fun n => { answer n with result := (answer n).result.bind Response.toResult }) cancelledAt

end RetryPolicy
end BookExport
