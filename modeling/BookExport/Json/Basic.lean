import BookExport.Binary64

/-! JSON values. An integer within 64 bits is kept as an integer and every other number in floating point. -/

namespace BookExport

inductive Json where
  | null
  | bool (b : Bool)
  | int (n : Int)
  | real (x : Binary64)
  | str (s : String)
  | arr (items : List Json)
  | obj (members : List (String × Json))
  deriving Repr, Inhabited, BEq

namespace Json

def nat (n : Nat) : Json := .int n

/-- The value of a member, the last one where a key is repeated. -/
def get? (key : String) : Json → Option Json
  | .obj members => (members.reverse.find? (·.1 == key)).map (·.2)
  | _ => none

/-- A member that is left out when there is no value. -/
def member? (key : String) (value : Option Json) : List (String × Json) :=
  match value with
  | some v => [(key, v)]
  | none => []

/-- Null for an absent value. -/
def orNull : Option Json → Json
  | some v => v
  | none => .null

/-- Sets a member in an object whose keys ascend, and keeps them ascending. -/
def setMember (key : String) (value : Json) : List (String × Json) → List (String × Json)
  | [] => [(key, value)]
  | (k, v) :: rest =>
    if key < k then (key, value) :: (k, v) :: rest
    else if key = k then (key, value) :: rest
    else (k, v) :: setMember key value rest

end Json
end BookExport
