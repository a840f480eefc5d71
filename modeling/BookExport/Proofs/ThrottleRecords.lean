import BookExport.Mirror.Course

/-! A throttle keeps one record for each job that it throttles, and a decision reads and changes the record of its own
job only. What is decided on one job is therefore decided as if there were no others. -/

namespace BookExport.Proofs.ThrottleRecords
open Throttle

theorem lookup_without {κ β : Type} [DecidableEq κ] (key wanted : κ) (entries : List (κ × β)) :
    (entries.filter fun entry => entry.1 != key).lookup wanted = if wanted = key then none else entries.lookup wanted := by
  induction entries with
  | nil => split <;> rfl
  | cons entry rest ih =>
    obtain ⟨here, value⟩ := entry
    by_cases kept : here = key
    · subst kept
      rw [List.filter_cons_of_neg (by simp), ih]
      split
      next => rfl
      next other => simp [List.lookup_cons, beq_eq_false_iff_ne.mpr other]
    · rw [List.filter_cons_of_pos (by simpa using kept), List.lookup_cons, List.lookup_cons, ih]
      by_cases found : wanted = here
      · simp [found, kept]
      · simp [beq_eq_false_iff_ne.mpr found]

private theorem record?_forget (t : Throttle) (id wanted : JobId) :
    (t.forget id).record? wanted = if wanted = id then none else t.record? wanted := lookup_without ..

private theorem record?_remember (t : Throttle) (id : JobId) (now : Nat) (status : Status) (wanted : JobId) :
    (t.remember id now status).record? wanted = if wanted = id then some (now, status) else t.record? wanted := by
  have behind : (t.remember id now status).record? wanted =
      if wanted = id then some (now, status) else (t.forget id).record? wanted := by
    simp only [record?, remember, List.lookup_cons]
    by_cases here : wanted = id
    · simp [here]
    · simp [here, beq_eq_false_iff_ne.mpr here]
  rw [behind, record?_forget]
  split <;> rfl

section
variable {t u : Throttle} {s : Snapshot}

@[simp] theorem interval_decide (t : Throttle) (s : Snapshot) (now : Nat) : (t.decide s now).2.interval = t.interval := by
  unfold Throttle.decide
  split
  · rfl
  · split
    · rfl
    · split <;> rfl

theorem record?_decide_other {id : JobId} (different : s.jobId ≠ id) (now : Nat) :
    (t.decide s now).2.record? id = t.record? id := by
  unfold Throttle.decide
  split
  · rw [record?_forget, if_neg (Ne.symm different)]
  · split
    · rfl
    · split
      · rw [record?_remember, if_neg (Ne.symm different)]
      · rfl

/-- What can be decided on a snapshot, with the record of its job before and after. -/
inductive Ruling (interval : Nat) (s : Snapshot) (now : Nat) : Option (Nat × Status) → Bool → Option (Nat × Status) → Prop where
  | ended (record : Option (Nat × Status)) (terminal : s.status.isTerminal = true) : Ruling interval s now record true none
  | waits (record : Option (Nat × Status)) (queued : s.status = .queued) : Ruling interval s now record true record
  | recorded (record : Option (Nat × Status)) (active : s.status.isActive = true)
      (due : ∀ last, record = some (last, s.status) → interval ≤ now - last) :
      Ruling interval s now record true (some (now, s.status))
  | skipped (last : Nat) (active : s.status.isActive = true) (early : now - last < interval) :
      Ruling interval s now (some (last, s.status)) false (some (last, s.status))

theorem isDue_iff {now : Nat} :
    t.isDue s now = true ↔ ∀ last, t.record? s.jobId = some (last, s.status) → t.interval ≤ now - last := by
  unfold isDue record?
  cases t.written.lookup s.jobId with
  | none => simp
  | some record =>
    obtain ⟨last, status⟩ := record
    by_cases same : status = s.status
    · simp [same]
    · simp [same]

theorem ruling_decide (t : Throttle) (s : Snapshot) (now : Nat) :
    Ruling t.interval s now (t.record? s.jobId) (t.decide s now).1 ((t.decide s now).2.record? s.jobId) := by
  unfold Throttle.decide
  split
  next terminal =>
    rw [record?_forget, if_pos rfl]
    exact .ended _ terminal
  next goesOn =>
    split
    next queued => exact .waits _ queued
    next left =>
      have active : s.status.isActive = true := by simp [Status.isActive, goesOn, left]
      split
      next due =>
        rw [record?_remember, if_pos rfl]
        exact .recorded _ active (isDue_iff.mp due)
      next early =>
        obtain ⟨last, found, soon⟩ : ∃ last, t.record? s.jobId = some (last, s.status) ∧ now - last < t.interval := by
          simpa [isDue_iff] using early
        rw [found]
        exact .skipped last active soon

private theorem decide_congr (interval : t.interval = u.interval) (record : t.record? s.jobId = u.record? s.jobId) (now : Nat) :
    (t.decide s now).1 = (u.decide s now).1 ∧
      (t.decide s now).2.record? s.jobId = (u.decide s now).2.record? s.jobId := by
  have due : t.isDue s now = u.isDue s now := by
    rw [Bool.eq_iff_iff, isDue_iff, isDue_iff, interval, record]
  unfold Throttle.decide
  rw [due]
  split
  · exact ⟨rfl, by rw [record?_forget, record?_forget, if_pos rfl, if_pos rfl]⟩
  · split
    · exact ⟨rfl, record⟩
    · split
      · exact ⟨rfl, by rw [record?_remember, record?_remember, if_pos rfl, if_pos rfl]⟩
      · exact ⟨rfl, record⟩

end

/-- Whoever leaves all other jobs out decides the same. -/
theorem decisions_ofJob {t u : Throttle} {id : JobId} (interval : t.interval = u.interval)
    (record : t.record? id = u.record? id) (arrived : List (Snapshot × Nat)) :
    (t.decisions arrived).filter (·.1.1.jobId = id) = u.decisions (ofJob id arrived) := by
  induction arrived generalizing t u with
  | nil => rfl
  | cons arrival rest ih =>
    obtain ⟨s, now⟩ := arrival
    by_cases about : s.jobId = id
    · subst about
      obtain ⟨same, recordAfter⟩ := decide_congr interval record now
      have behind := ih (by simpa using interval) recordAfter
      rw [ofJob, List.filter_cons_of_pos (by simp)]
      simp only [decisions]
      rw [List.filter_cons_of_pos (by simp), behind, same]
      rfl
    · have behind := ih (by simpa using interval) ((record?_decide_other about now).trans record)
      rw [ofJob, List.filter_cons_of_neg (by simpa using about)]
      simp only [decisions]
      rw [List.filter_cons_of_neg (by simpa using about), behind]
      rfl

theorem chosen_ofJob (t : Throttle) (id : JobId) (arrived : List (Snapshot × Nat)) :
    ofJob id (t.chosen arrived) = t.chosen (ofJob id arrived) := by
  rw [chosen, chosen, ← decisions_ofJob (t := t) rfl rfl, ofJob, List.filter_map, List.filter_filter, List.filter_filter]
  congr 2
  funext decision
  exact Bool.and_comm ..

end BookExport.Proofs.ThrottleRecords
