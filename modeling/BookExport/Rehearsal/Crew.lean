/-! The workers of a rehearsal, numbered in the order of their start. At most one is at work; the others wait
and are woken in turn. -/

namespace BookExport

structure Crew where
  started : Nat := 0
  /-- Those who wait for a job, the next to be woken first. -/
  waiting : List Nat := []
  busy : Option Nat := none
  deriving Repr, Inhabited

namespace Crew

/-- One more worker, who waits behind the others; after the shutdown it ends at once. -/
def join (c : Crew) (isShutDown : Bool) : Crew :=
  { c with started := c.started + 1, waiting := c.waiting ++ (if isShutDown then [] else [c.started]) }

/-- The first who waits is woken for nothing and waits again behind the others. -/
def rotate (c : Crew) : Crew := { c with waiting := c.waiting.drop 1 ++ c.waiting.take 1 }

/-- A job comes. While a worker is busy, another is woken for nothing. -/
def notice (c : Crew) : Crew := if c.busy.isSome then c.rotate else c

/-- A job is begun, by the first who waits or by the worker who just ended another. In the second case the
place that was free for a moment has woken a worker for nothing. -/
def begin (c : Crew) : Crew :=
  if c.busy.isSome then c.rotate else { c with waiting := c.waiting.drop 1, busy := c.waiting.head? }

/-- The worker who ended a job finds no other. It waits before the one whom the free place has woken. -/
def rest (c : Crew) : Crew :=
  { c with waiting := c.waiting.drop 1 ++ c.busy.toList ++ c.waiting.take 1, busy := none }

/-- The worker who just ended a job has had its turn. The first who waits, whom the free place has woken,
looks for a job before it does. -/
def pause (c : Crew) : Crew :=
  if c.waiting.isEmpty then c else { c with waiting := c.waiting ++ c.busy.toList, busy := none }

/-- Those who wait end. -/
def dismiss (c : Crew) : Crew := { c with waiting := [] }

/-- Nobody is left. -/
def disband (c : Crew) : Crew := { c with waiting := [], busy := none }

/-- Whether the worker who was started last has ended. -/
def isLastDone (c : Crew) : Bool :=
  match c.started with
  | 0 => false
  | last + 1 => c.busy != some last && last ∉ c.waiting

end Crew
end BookExport
