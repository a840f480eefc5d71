import BookExport.Proofs.ThrottleRecords
import Mathlib.Data.List.Chain

/-! A mirror does not write too often. While a job reports the same phase again and again, the record of its last write stays
as it is until the interval is over, and neither waiting nor ended jobs leave a record that could hide a write. -/

namespace BookExport.Proofs.SpacedWrites
open Throttle ThrottleRecords

/-- Of two writes, the later one keeps its distance if both tell of one phase of an export. -/
def Spaced (interval : Nat) (first next : Snapshot × Nat) : Prop :=
  first.1.status = next.1.status → first.1.status.isActive = true → first.2 + interval ≤ next.2

section
variable {t : Throttle} {id : JobId} {arrived : List (Snapshot × Nat)}

private theorem spaced_head {last : Nat} {status : Status} (active : status.isActive = true)
    (recorded : t.record? id = some (last, status)) (about : ∀ arrival ∈ arrived, arrival.1.jobId = id)
    (later : ∀ arrival ∈ arrived, last ≤ arrival.2) :
    ∀ next ∈ (t.chosen arrived).head?, next.1.status = status → last + t.interval ≤ next.2 := by
  induction arrived generalizing t with
  | nil => simp [chosen, decisions]
  | cons arrival rest ih =>
    obtain ⟨s, now⟩ := arrival
    obtain ⟨rfl, aboutRest⟩ := List.forall_mem_cons.mp about
    obtain ⟨soon, laterRest⟩ := List.forall_mem_cons.mp later
    have kept := interval_decide t s now
    have ruling := ruling_decide t s now
    rw [recorded] at ruling
    rw [chosen_cons]
    generalize t.decide s now = decision at kept ruling ⊢
    obtain ⟨isWritten, after⟩ := decision
    simp only at kept ruling ⊢
    intro next first same
    generalize recordAfter : after.record? s.jobId = record at ruling
    cases ruling with
    | ended _ terminal =>
      obtain rfl : (s, now) = next := by simpa using first
      rw [← same, Status.isActive, terminal] at active
      cases active
    | waits _ queued =>
      obtain rfl : (s, now) = next := by simpa using first
      rw [← same, queued] at active
      cases active
    | recorded _ _ due =>
      obtain rfl : (s, now) = next := by simpa using first
      have elapsed := due last (by rw [same])
      simp only at soon
      show last + t.interval ≤ now
      omega
    | skipped =>
      rw [← kept]
      exact ih recordAfter aboutRest laterRest next (by simpa using first) same

private theorem isChain_chosen (inTime : arrived.Pairwise (·.2 ≤ ·.2)) (about : ∀ arrival ∈ arrived, arrival.1.jobId = id) :
    (t.chosen arrived).IsChain (Spaced t.interval) := by
  induction arrived generalizing t with
  | nil => exact .nil
  | cons arrival rest ih =>
    obtain ⟨s, now⟩ := arrival
    obtain ⟨rfl, aboutRest⟩ := List.forall_mem_cons.mp about
    obtain ⟨later, inTimeRest⟩ := List.pairwise_cons.mp inTime
    have kept := interval_decide t s now
    have behind := ih (t := (t.decide s now).2) inTimeRest aboutRest
    rw [kept] at behind
    rw [chosen_cons]
    split
    next isWritten =>
      apply List.isChain_cons.mpr
      refine ⟨?_, behind⟩
      intro next first same active
      have ruling := ruling_decide t s now
      rw [isWritten] at ruling
      generalize t.record? s.jobId = recordBefore at ruling
      generalize recordAfter : (t.decide s now).2.record? s.jobId = record at ruling
      cases ruling with
      | ended _ terminal =>
        rw [Status.isActive, terminal] at active
        cases active
      | waits _ queued =>
        rw [queued] at active
        cases active
      | recorded =>
        rw [← kept]
        exact spaced_head active recordAfter aboutRest later next first same.symm
    next => exact behind

end

/-- Whatever comes and when, the chosen snapshots are the ones that are written: two of one job that follow each other and
tell of the same phase of its export are at least the interval apart, and other jobs have no part in what is decided on
one. -/
theorem writes_are_spaced (interval : Nat) (arrived : List (Snapshot × Nat)) (inTime : arrived.Pairwise (·.2 ≤ ·.2))
    (id : JobId) :
    let t : Throttle := { interval }
    Mirror.writes t arrived = (t.chosen arrived).map (fun arrival => Mirror.writeOf arrival.1) ∧
      (ofJob id (t.chosen arrived)).IsChain (Spaced interval) ∧
      (t.decisions arrived).filter (·.1.1.jobId = id) = t.decisions (ofJob id arrived) := by
  intro t
  refine ⟨Mirror.writes_eq t arrived, ?_, decisions_ofJob rfl rfl arrived⟩
  rw [chosen_ofJob]
  apply isChain_chosen (t := t)
  · exact inTime.sublist List.filter_sublist
  · intro arrival member
    simpa using (List.mem_filter.mp member).2

def tick (name : String) (status : Status) : Snapshot := { (default : Snapshot) with jobId := ⟨name⟩, status }

/-- Two jobs report, one of them also from the queue. -/
def reports : List (Snapshot × Nat) :=
  [(tick "a" .generatingPdf, 0), (tick "b" .generatingPdf, 10), (tick "a" .generatingPdf, 100), (tick "a" .queued, 150),
    (tick "a" .generatingPdf, 200), (tick "a" .generatingPdf, 260), (tick "a" .generatingEpub, 270)]

theorem writes_are_spaced_two_jobs :
    let t : Throttle := { interval := 250 }
    reports.Pairwise (·.2 ≤ ·.2) ∧ (ofJob ⟨"a"⟩ (t.chosen reports)).map (·.2) = [0, 150, 260, 270] ∧
      Mirror.writes t reports = (t.chosen reports).map (fun arrival => Mirror.writeOf arrival.1) ∧
      (ofJob ⟨"a"⟩ (t.chosen reports)).IsChain (Spaced 250) ∧
      (t.decisions reports).filter (·.1.1.jobId = ⟨"a"⟩) = t.decisions (ofJob ⟨"a"⟩ reports) := by
  have inTime : reports.Pairwise (·.2 ≤ ·.2) := by decide
  exact ⟨inTime, by decide, writes_are_spaced 250 reports inTime ⟨"a"⟩⟩

end BookExport.Proofs.SpacedWrites
