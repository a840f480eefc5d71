import BookExport.Proofs.RetryCourse

/-! What becomes of retried work that nobody cancels: it ends with the first result that is final, or with the attempt
that exhausts the budget, and before that it makes all attempts in turn and waits for the backoff between them. -/

namespace BookExport.Proofs.RetryOutcome
open RetryPolicy RetryCourse

/-- A result that may pass by itself: no answer in time, no connection, throttling, or a failure of the server. -/
inductive MayPass {α : Type} : Except TransportFailure α → Prop where
  | timeout : MayPass (.error .timeout)
  | connection (reason : String) : MayPass (.error (.connection reason))
  | throttled (message : String) : MayPass (.error (.status 429 message))
  | server (code : UInt16) (message : String) (fault : 500 ≤ code ∧ code ≤ 599) : MayPass (.error (.status code message))

/-- The law of work with these results that nobody cancels. -/
structure Lawful {α : Type} (p : RetryPolicy) (results : Nat → Except TransportFailure α) (made : RetryRun α)
    (last : Nat) : Prop where
  within : 1 ≤ last ∧ last ≤ p.budget
  unsettled : ∀ n, 1 ≤ n → n < last → MayPass (results n)
  ends : ¬MayPass (results last) ∨ last = p.budget
  attempted : made.attempted.map Prod.fst = List.range' 1 last
  waits : made.waits = List.replicate (last - 1) (p.backoff, p.backoff)
  succeeds : ∀ value, results last = .ok value → made.result = .ok value
  unauthorized : ∀ code message, results last = .error (.status code message) → code = 401 ∨ code = 403 →
    made.result = .error (.auth (TransportFailure.status code message).message)
  rejected : ∀ code message, results last = .error (.status code message) → code ≠ 401 → code ≠ 403 → code ≠ 429 →
    ¬(500 ≤ code ∧ code ≤ 599) →
    made.result = .error (.rejected code.toNat (TransportFailure.status code message).message)
  exhausted : (∀ n, 1 ≤ n → n ≤ p.budget → MayPass (results n)) → last = p.budget ∧
    ∃ failure, results last = .error failure ∧
      made.result = .error (.network (failure.message ++ " (after " ++ Text.decimal last ++ " attempts)"))

section
variable {α : Type} {p : RetryPolicy} {results : Nat → Except TransportFailure α} {work : Nat → Attempt α} {n : Nat}

theorem mayPass_iff {result : Except TransportFailure α} : MayPass result ↔ isFinal result = false := by
  constructor
  · rintro (_ | _ | _ | ⟨code, message, fault⟩)
    · rfl
    · rfl
    · rfl
    · have known : ¬(code = 401 ∨ code = 403) ∧ code ≠ 429 := by
        refine ⟨?_, ?_⟩
        · rintro (rfl | rfl) <;> exact absurd fault (by decide)
        · rintro rfl
          exact absurd fault (by decide)
      simp [isFinal, TransportFailure.kind, FailureKind.ofStatus, known, fault, FailureKind.isTransient]
  · intro passes
    cases result with
    | ok value => cases passes
    | error failure =>
      cases failure with
      | connection reason => exact .connection reason
      | timeout => exact .timeout
      | status code message =>
        simp only [isFinal, TransportFailure.kind, FailureKind.ofStatus] at passes
        split at passes
        · cases passes
        · split at passes
          next throttled => exact throttled ▸ .throttled message
          next =>
            split at passes
            next fault => exact .server code message fault
            next => cases passes

theorem retries_iff : p.Retries work n ↔ isFinal (work n).result = false ∧ n < p.maxAttempts.toNat := by
  cases result : (work n).result <;> simp [Retries, isFinal, result]

private theorem not_final_of_reaches (reaches : p.Reaches work n) {m : Nat} (first : 1 ≤ m) (before : m < n) :
    isFinal (work m).result = false := (retries_iff.mp (reaches.2 m first before)).1

private theorem le_budget (reaches : p.Reaches work n) : n ≤ p.budget := by
  unfold budget
  rcases Nat.lt_or_ge 1 n with further | first
  · have left := (retries_iff.mp (reaches.2 (n - 1) (by omega) (by omega))).2
    omega
  · omega

private theorem final_or_exhausted (reaches : p.Reaches work n) (final : ¬p.Retries work n) :
    isFinal (work n).result = true ∨ n = p.budget := by
  cases ends : isFinal (work n).result with
  | true => exact Or.inl rfl
  | false =>
    have within := le_budget reaches
    have spent : ¬n < p.maxAttempts.toNat := fun left => final (retries_iff.mpr ⟨ends, left⟩)
    have numbered := reaches.1
    unfold budget at within ⊢
    omega

private theorem eq_lastAttempt (reaches : p.Reaches work n) (final : ¬p.Retries work n) :
    n = p.lastAttempt fun m => (work m).result := by
  have numbered := reaches.1
  have within := le_budget reaches
  unfold lastAttempt
  cases ends : isFinal (work n).result with
  | true =>
    have found : (List.range' 1 p.budget).find? (fun m => isFinal (work m).result) = some n := by
      rw [List.find?_range'_eq_some]
      refine ⟨ends, by rw [List.mem_range'_1]; omega, ?_⟩
      intro m first before
      simp [not_final_of_reaches reaches first before]
    rw [found]
    rfl
  | false =>
    have exhausted : n = p.budget := (final_or_exhausted reaches final).resolve_left (by simp [ends])
    have none : (List.range' 1 p.budget).find? (fun m => isFinal (work m).result) = none := by
      rw [List.find?_range'_eq_none]
      intro m first before
      rcases Nat.lt_or_eq_of_le (show m ≤ n by omega) with earlier | rfl
      · simp [not_final_of_reaches reaches first earlier]
      · simp [ends]
    rw [none]
    exact exhausted

private theorem surface_transient {failure : TransportFailure} (transient : failure.kind.isTransient = true) :
    surface failure n = .network (failure.message ++ " (after " ++ Text.decimal n ++ " attempts)") := by
  unfold surface
  cases kind : failure.kind <;> simp_all [FailureKind.isTransient]

/-- Nobody ever cancels the work, so an attempt settles it. -/
theorem run_settled (p : RetryPolicy) (never : ∀ n, (work n).cancels = false) :
    ∃ n, p.Reaches work n ∧ ¬p.Retries work n ∧ p.run work none =
      ⟨settled (work n).result n, p.eventsBefore work n ++ [.attempted n (p.startOf work n)], p.endOf work n⟩ := by
  have awake (n : Nat) : ¬p.CancelledAtStart work none n := by simp [CancelledAtStart, isCancelledBy, never]
  have course := run_course p work none
  generalize made : p.run work none = run at course
  cases course with
  | prevented cancelled => exact absurd cancelled (awake 1)
  | settled n last final => exact ⟨n, last.reaches, final, rfl⟩
  | stoppedDuring n last retries => exact absurd (last.ends retries) (awake _)
  | stoppedBehind n last retries going stopped moment => cases moment

theorem run_lawful (p : RetryPolicy) (never : ∀ n, (work n).cancels = false) :
    Lawful p (fun n => (work n).result) (p.run work none) (p.lastAttempt fun n => (work n).result) := by
  obtain ⟨n, reaches, final, made⟩ := run_settled p never
  rw [made, ← eq_lastAttempt reaches final]
  obtain ⟨others, rfl⟩ : ∃ others, n = others + 1 := ⟨n - 1, by have := reaches.1; omega⟩
  refine ⟨⟨reaches.1, le_budget reaches⟩, fun m first before => mayPass_iff.mpr (not_final_of_reaches reaches first before),
    ?_, ?_, ?_, ?_, ?_, ?_, ?_⟩
  · refine (final_or_exhausted reaches final).imp_left fun ends passes => ?_
    rw [mayPass_iff.mp passes] at ends
    cases ends
  · simp only [RetryRun.attempted, List.filterMap_append, attempted_eventsBefore, List.map_append, List.map_map]
    simp [Function.comp_def, RetryEvent.attempt?, List.range'_concat, Nat.add_comm]
  · simp only [RetryRun.waits, List.filterMap_append, waits_eventsBefore]
    simp [RetryEvent.wait?]
  · intro value succeeded
    simp [succeeded]
  · intro code message failed unauthorized
    simp [failed, surface, TransportFailure.kind, FailureKind.ofStatus, unauthorized]
  · intro code message failed notUnauthorized notForbidden notThrottled notServer
    simp [failed, surface, TransportFailure.kind, FailureKind.ofStatus, notUnauthorized,
      notForbidden, notThrottled, notServer]
  · intro transient
    have last := mayPass_iff.mp (transient _ reaches.1 (le_budget reaches))
    refine ⟨(final_or_exhausted reaches final).resolve_left (by simp [last]), ?_⟩
    cases result : (work (others + 1)).result with
    | ok value => simp [result, isFinal] at last
    | error failure =>
      refine ⟨failure, rfl, ?_⟩
      rw [← surface_transient (by simpa [result, isFinal] using last)]
      rfl

private theorem toResult_eq (r : Response) :
    r.toResult = if 200 ≤ r.status ∧ r.status ≤ 299 then .ok r else .error (.status r.status r.bodyText) := by
  simp only [Response.toResult, Response.isSuccess, Bool.and_eq_true, decide_eq_true_eq]

end

/-- For every policy, and whatever comes back from the attempts: work that nobody cancels makes the attempts up to the
last in turn, which are never more than can be counted, waits for the backoff between them, and ends as the last result
says. Requests obey the same law; their results are the failures of the transport, the responses with success as they
are, and all other responses as failures by their status. -/
theorem retries_are_lawful (p : RetryPolicy) :
    p.budget < UInt32.size ∧
    (∀ (α : Type) (work : Nat → Attempt α), (∀ n, (work n).cancels = false) →
      let results n := (work n).result
      Lawful p results (p.run work none) (p.lastAttempt results)) ∧
    ∀ answer : Nat → Attempt Response, (∀ n, (answer n).cancels = false) →
      let results n := (answer n).result.bind Response.toResult
      Lawful p results (p.fetch answer none) (p.lastAttempt results) ∧
      ∀ n, (∀ failure, (answer n).result = .error failure → results n = .error failure) ∧
        ∀ response, (answer n).result = .ok response →
          (200 ≤ response.status ∧ response.status ≤ 299 → results n = .ok response) ∧
          (¬(200 ≤ response.status ∧ response.status ≤ 299) →
            results n = .error (.status response.status response.bodyText)) := by
  refine ⟨p.budget_lt, fun α work never => run_lawful p never, ?_⟩
  intro answer never results
  let work (n : Nat) : Attempt Response := { answer n with result := results n }
  have quiet : ∀ n, (work n).cancels = false := never
  refine ⟨run_lawful p quiet, ?_⟩
  intro n
  refine ⟨fun failure failed => by simp only [results, failed]; rfl, ?_⟩
  intro response answered
  have result : results n = response.toResult := by simp only [results, answered]; rfl
  rw [result, toResult_eq]
  exact ⟨fun success => if_pos success, fun failure => if_neg failure⟩

/-- A timeout, an overloaded server, and then a response. -/
def recovering : Nat → Attempt Response
  | 1 => { result := .error .timeout, duration := 30 }
  | 2 => { result := .ok ⟨503, []⟩ }
  | _ => { result := .ok ⟨200, [0x7B, 0x7D]⟩, duration := 5 }

theorem retries_are_lawful_recovering :
    let made := (RetryPolicy.mk 3 10).fetch recovering none
    let shorter := (RetryPolicy.mk 2 10).fetch recovering none
    (∀ n, (recovering n).cancels = false) ∧
      made.attempted.map Prod.fst = [1, 2, 3] ∧ made.waits = [(10, 10), (10, 10)] ∧
      made.result = .ok ⟨200, [0x7B, 0x7D]⟩ ∧
      shorter.attempted.map Prod.fst = [1, 2] ∧ ∃ message, shorter.result = .error (.network message) := by
  have never (n : Nat) : (recovering n).cancels = false := by
    unfold recovering
    split <;> rfl
  obtain ⟨-, -, requests⟩ := retries_are_lawful ⟨3, 10⟩
  obtain ⟨-, -, fewer⟩ := retries_are_lawful ⟨2, 10⟩
  have law := (requests recovering never).1
  have fewerLaw := (fewer recovering never).1
  have third : (RetryPolicy.mk 3 10).lastAttempt (fun n => (recovering n).result.bind Response.toResult) = 3 := by
    decide
  have second : (RetryPolicy.mk 2 10).lastAttempt (fun n => (recovering n).result.bind Response.toResult) = 2 := by
    decide
  rw [third] at law
  rw [second] at fewerLaw
  have transient : ∀ n, 1 ≤ n → n ≤ (RetryPolicy.mk 2 10).budget →
      MayPass ((recovering n).result.bind Response.toResult) := by
    intro n first within
    have two : (RetryPolicy.mk 2 10).budget = 2 := by decide
    obtain rfl | rfl : n = 1 ∨ n = 2 := by omega
    · exact .timeout
    · exact .server 503 _ (by decide)
  obtain ⟨-, failure, -, given⟩ := fewerLaw.exhausted transient
  exact ⟨never, law.attempted, law.waits, law.succeeds _ rfl, fewerLaw.attempted, _, given⟩

end BookExport.Proofs.RetryOutcome
