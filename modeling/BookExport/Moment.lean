import BookExport.Turn

/-! Moments in a piece of work that runs beside others. Much may happen within one millisecond, so a moment
also counts the timers that were over in it. Moments are ordered by the clock, then by that count. -/

namespace BookExport

structure Moment where
  millis : Nat := 0
  /-- How many timers of the work were over in this millisecond. -/
  timers : Nat := 0
  deriving DecidableEq, Repr, Inhabited

namespace Moment

instance : LE Moment := ⟨fun a b => a.millis < b.millis ∨ a.millis = b.millis ∧ a.timers ≤ b.timers⟩

instance (a b : Moment) : Decidable (a ≤ b) := inferInstanceAs (Decidable (_ ∨ _))

/-- The moment at which a timer is over that was set at `m`. -/
def after (m : Moment) (millis : Nat) : Moment :=
  if millis = 0 then { m with timers := m.timers + 1 } else ⟨m.millis + millis, 1⟩

/-- When the others have their turn in a millisecond: once the work has to wait, or has had its own turn. -/
def ofOthers (millis : Nat) : Moment := ⟨millis, Turn.room + 1⟩

def earlier (a b : Moment) : Moment := if a ≤ b then a else b

def later (a b : Moment) : Moment := if a ≤ b then b else a

theorem le_iff {a b : Moment} : a ≤ b ↔ a.millis < b.millis ∨ a.millis = b.millis ∧ a.timers ≤ b.timers := Iff.rfl

theorem le_refl (a : Moment) : a ≤ a := Or.inr ⟨rfl, Nat.le_refl _⟩

theorem le_trans {a b c : Moment} (ab : a ≤ b) (bc : b ≤ c) : a ≤ c := by
  rw [le_iff] at *
  omega

theorem le_total (a b : Moment) : a ≤ b ∨ b ≤ a := by
  rw [le_iff, le_iff]
  omega

theorem le_antisymm {a b : Moment} (ab : a ≤ b) (ba : b ≤ a) : a = b := by
  rw [le_iff] at *
  have sameMillis : a.millis = b.millis := by omega
  have sameTimers : a.timers = b.timers := by omega
  cases a
  cases b
  simp_all

/-- A timer that is over moves the work on. -/
theorem not_after_le (m : Moment) (millis : Nat) : ¬ m.after millis ≤ m := by
  rw [le_iff, after]
  split <;> simp only <;> omega

theorem le_after (m : Moment) (millis : Nat) : m ≤ m.after millis := (le_total m _).resolve_right (not_after_le m millis)

theorem earlier_le_right (a b : Moment) : a.earlier b ≤ b := by
  unfold earlier
  split
  · assumption
  · exact le_refl b

theorem later_eq_left {a b : Moment} (order : b ≤ a) : a.later b = a := by
  unfold later
  split
  next other => exact le_antisymm order other
  · rfl

theorem later_eq_right {a b : Moment} (order : a ≤ b) : a.later b = b := if_pos order

end Moment
end BookExport
