import BookExport.Binary64.Shortest
import BookExport.Json.Document

/-! The shape of a value: how deep it is nested, whether all its numbers are integers within 64 bits or read back at least,
and whether the keys of its objects ascend. -/

namespace BookExport.Json

mutual

/-- How many lists and objects are open inside each other. -/
def depth : Json → Nat
  | .arr items => itemsDepth items + 1
  | .obj members => membersDepth members + 1
  | _ => 0

def itemsDepth : List Json → Nat
  | [] => 0
  | item :: rest => max (depth item) (itemsDepth rest)

def membersDepth : List (String × Json) → Nat
  | [] => 0
  | (_, value) :: rest => max (depth value) (membersDepth rest)

end

mutual

def Integral : Json → Prop
  | .int n => Numeral.fits n = true
  | .real _ => False
  | .arr items => ItemsIntegral items
  | .obj members => MembersIntegral members
  | _ => True

def ItemsIntegral : List Json → Prop
  | [] => True
  | item :: rest => Integral item ∧ ItemsIntegral rest

def MembersIntegral : List (String × Json) → Prop
  | [] => True
  | (_, value) :: rest => Integral value ∧ MembersIntegral rest

end

/-- The numeral that a whole text is. -/
def Numeral.ofText? : List Char → Option Numeral
  | [] => none
  | c :: cs => if c = '-' ∨ c.isDigit then cs.foldlM push? (start c) else none

/-- What the text of a number with a point or an exponent is read as. -/
def decimalOf? (cs : List Char) : Option Decimal :=
  (Numeral.ofText? cs).bind fun n =>
    match n.finish none with
    | .real d => some d
    | _ => none

mutual

/-- Every number in it reads back: the integers within 64 bits do, and many in floating point. -/
def Legible : Json → Prop
  | .int n => Numeral.fits n = true
  | .real x => (decimalOf? x.toDecimal.render).bind Binary64.ofDecimal? = some x
  | .arr items => ItemsLegible items
  | .obj members => MembersLegible members
  | _ => True

def ItemsLegible : List Json → Prop
  | [] => True
  | item :: rest => Legible item ∧ ItemsLegible rest

def MembersLegible : List (String × Json) → Prop
  | [] => True
  | (_, value) :: rest => Legible value ∧ MembersLegible rest

end

mutual

theorem Integral.legible : {j : Json} → Integral j → Legible j
  | .null, _ | .bool _, _ | .str _, _ => trivial
  | .int _, fits => fits
  | .real _, never => never.elim
  | .arr _, integral => ItemsIntegral.legible integral
  | .obj _, integral => MembersIntegral.legible integral

theorem ItemsIntegral.legible : {items : List Json} → ItemsIntegral items → ItemsLegible items
  | [], _ => trivial
  | _ :: _, ⟨integral, others⟩ => ⟨integral.legible, others.legible⟩

theorem MembersIntegral.legible : {members : List (String × Json)} → MembersIntegral members → MembersLegible members
  | [], _ => trivial
  | _ :: _, ⟨integral, others⟩ => ⟨integral.legible, others.legible⟩

end

mutual

/-- No key of an object comes twice, and they are in order. -/
def Ordered : Json → Prop
  | .arr items => ItemsOrdered items
  | .obj members => (members.map Prod.fst).Pairwise (· < ·) ∧ MembersOrdered members
  | _ => True

def ItemsOrdered : List Json → Prop
  | [] => True
  | item :: rest => Ordered item ∧ ItemsOrdered rest

def MembersOrdered : List (String × Json) → Prop
  | [] => True
  | (_, value) :: rest => Ordered value ∧ MembersOrdered rest

end

mutual

/-- The document of the text of a value. -/
def toDoc : Json → Doc
  | .null => .null
  | .bool b => .bool b
  | .int n => .int n
  | .real x => .real ((decimalOf? x.toDecimal.render).getD x.toDecimal)
  | .str s => .str (some s)
  | .arr items => .arr (itemsToDoc items)
  | .obj members => .obj (membersToDoc members)

def itemsToDoc : List Json → List Doc
  | [] => []
  | item :: rest => toDoc item :: itemsToDoc rest

def membersToDoc : List (String × Json) → List (Option String × Doc)
  | [] => []
  | (key, value) :: rest => (some key, toDoc value) :: membersToDoc rest

end

end BookExport.Json
