import BookExport.Exporter.Arguments
import BookExport.Proofs.LoadedSettings

/-! The retries that an exporter is told of are those of the settings. Attempts are counted with the first one, and the
counter ends at the same number as the setting: of the greatest number of retries it has no room for the last. -/

namespace BookExport.Proofs.RetryBudget
open BoundedNumbers LoadedSettings Exporter

/-- All retries are attempts, as long as the attempts can be counted. -/
private theorem retries_ofRetries (retries : UInt32) (backoff : Nat) :
    (RetryPolicy.ofRetries retries backoff).retries = min retries.toNat 4294967294 := by
  have bounded : retries.toNat < 4294967296 := retries.toNat_lt
  rw [RetryPolicy.ofRetries, RetryPolicy.retries]
  split
  next greatest =>
    rw [greatest]
    rfl
  next smaller =>
    have room : retries.toNat ≠ 4294967295 := fun same => smaller (UInt32.toNat_inj.mp same)
    have counted : (retries + 1).toNat = retries.toNat + 1 := by
      rw [UInt32.toNat_add]
      exact Nat.mod_eq_of_lt (by simp; omega)
    rw [counted]
    omega

private theorem retries_retryPolicy {c : Config} (bounded : c.requestRetries ≤ 4294967295) :
    c.retryPolicy.retries = min c.requestRetries 4294967294 := by
  have exact : (UInt32.ofNat c.requestRetries).toNat = c.requestRetries :=
    UInt32.toNat_ofNat_of_lt' (by simp [UInt32.size]; omega)
  rw [Config.retryPolicy, retries_ofRetries, exact]

private theorem arguments_some (spec : JobSpec) (policy : RetryPolicy) :
    arguments spec (some policy) = arguments spec none ++
      ["--retries", Text.decimal policy.retries, "--retry-backoff-ms", Text.decimal policy.backoff] := by
  simp only [arguments, retryArguments, List.append_nil]

/-- Whatever the settings are: every command line ends with their retries, less one only where these are the greatest number
there is, and with the wait between them. -/
theorem budget_is_handed_on (lookup : String → Option String) (c : Config)
    (accepted : Config.ofLookup lookup = .ok c) :
    ∃ retries backoff, Gives lookup .requestRetries retries ∧ Gives lookup .requestBackoff backoff ∧
      ∀ spec, arguments spec (some c.retryPolicy) = arguments spec none ++
        ["--retries", Text.decimal (min retries 4294967294), "--retry-backoff-ms", Text.decimal backoff] := by
  have settled : Settled lookup c := (accepted ▸ loads_ofLookup lookup).accepted.2
  refine ⟨c.requestRetries, c.requestBackoff, settled.requestRetries, settled.requestBackoff, ?_⟩
  intro spec
  have bounded : c.requestRetries ≤ 4294967295 := settled.requestRetries.le_most (by decide)
  rw [arguments_some, retries_retryPolicy bounded]
  rfl

/-- The most retries that are handed on as they are, and the longest wait between them. -/
def patient (name : String) : Option String :=
  [("REQUEST_RETRIES", "4294967294"), ("REQUEST_RETRY_BACKOFF_MS", "18446744073709551615")].lookup name

theorem budget_is_handed_on_patient :
    ∃ c, Config.ofLookup patient = .ok c ∧ ∀ spec, arguments spec (some c.retryPolicy) = arguments spec none ++
      ["--retries", "4294967294", "--retry-backoff-ms", "18446744073709551615"] := by
  obtain ⟨c, accepted⟩ : ∃ c, Config.ofLookup patient = .ok c := ⟨_, by rfl⟩
  obtain ⟨retries, backoff, isRetries, isBackoff, told⟩ := budget_is_handed_on patient c accepted
  have givesRetries : Gives patient .requestRetries 4294967294 := read_eq_ok.mp (by rfl)
  have givesBackoff : Gives patient .requestBackoff 18446744073709551615 := read_eq_ok.mp (by rfl)
  obtain rfl := isRetries.unique givesRetries
  obtain rfl := isBackoff.unique givesBackoff
  have most : Text.decimal (min 4294967294 4294967294) = "4294967294" := by decide +kernel
  have longest : Text.decimal 18446744073709551615 = "18446744073709551615" := by decide +kernel
  refine ⟨c, accepted, fun spec => ?_⟩
  rw [told, most, longest]

def tireless (name : String) : Option String := [("REQUEST_RETRIES", "4294967295")].lookup name

theorem greatest_budget_is_cut :
    ¬∀ (lookup : String → Option String) (c : Config), Config.ofLookup lookup = .ok c →
      ∃ retries backoff, Gives lookup .requestRetries retries ∧ Gives lookup .requestBackoff backoff ∧
        ∀ spec, arguments spec (some c.retryPolicy) = arguments spec none ++
          ["--retries", Text.decimal retries, "--retry-backoff-ms", Text.decimal backoff] := by
  intro always
  obtain ⟨c, accepted, counted⟩ : ∃ c, Config.ofLookup tireless = .ok c ∧ c.retryPolicy.retries = 4294967294 :=
    ⟨_, by rfl, by rfl⟩
  obtain ⟨retries, backoff, isRetries, -, told⟩ := always tireless c accepted
  have givesRetries : Gives tireless .requestRetries 4294967295 := read_eq_ok.mp (by rfl)
  obtain rfl := isRetries.unique givesRetries
  have same := told default
  rw [arguments_some, counted, List.append_cancel_left_eq, List.cons.injEq, List.cons.injEq] at same
  exact absurd (decimal_injective same.2.1) (by decide)

end BookExport.Proofs.RetryBudget
