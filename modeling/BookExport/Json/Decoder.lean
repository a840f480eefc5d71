import BookExport.Json.Document

/-! Reading typed values from documents. A record may be written as an object or as the list of its
fields in order; unknown members are skipped, and a known member may come once. Of several faults the
first in the text counts. -/

namespace BookExport.Json

/-- Why a document holds no value of the type: the text is not JSON, or it is and has another shape. -/
inductive Fault where
  | malformed
  | mismatch
  deriving DecidableEq, Repr

abbrev Decoder (α : Type) := Doc → Except Fault α

namespace Doc

/-- The fault of a document that has another shape than the one wanted. A list or an object is refused
at its first symbol, anything else once it was read. -/
def refuse {α : Type} : Decoder α
  | .broken | .str none => .error .malformed
  | .real d => .error (if (Binary64.ofDecimal? d).isNone then .malformed else .mismatch)
  | _ => .error .mismatch

/-- How many lists and objects may be open inside each other in a value that is kept whole. -/
def maxDepth : Nat := 127

mutual

/-- The value of a document that is kept whole, with its keys in order and the last of repeated members. -/
def toJson (room : Nat) : Doc → Except Fault Json
  | .null => .ok .null
  | .bool b => .ok (.bool b)
  | .int n => .ok (.int n)
  | .real d =>
    match Binary64.ofDecimal? d with
    | some x => .ok (.real x)
    | none => .error .malformed
  | .str (some s) => .ok (.str s)
  | .str none => .error .malformed
  | .arr items =>
    match room with
    | 0 => .error .malformed
    | room + 1 => (itemsToJson room items).map .arr
  | .obj members =>
    match room with
    | 0 => .error .malformed
    | room + 1 => (membersToJson room members []).map .obj
  | .broken => .error .malformed

def itemsToJson (room : Nat) : List Doc → Except Fault (List Json)
  | [] => .ok []
  | item :: rest => do
    let item ← toJson room item
    let rest ← itemsToJson room rest
    return item :: rest

def membersToJson (room : Nat) :
    List (Option String × Doc) → List (String × Json) → Except Fault (List (String × Json))
  | [], done => .ok done
  | (none, _) :: _, _ => .error .malformed
  | (some key, value) :: rest, done => do
    let value ← toJson room value
    membersToJson room rest (Json.setMember key value done)

end

mutual

/-- Whether a skipped value is JSON. Nothing in it is read: a string need not stand for a text. -/
def isWhole : Doc → Bool
  | .arr items => itemsWhole items
  | .obj members => membersWhole members
  | .broken => false
  | _ => true

def itemsWhole : List Doc → Bool
  | [] => true
  | item :: rest => isWhole item && itemsWhole rest

def membersWhole : List (Option String × Doc) → Bool
  | [] => true
  | (_, value) :: rest => isWhole value && membersWhole rest

end

def skip (d : Doc) : Except Fault Unit := if d.isWhole then .ok () else .error .malformed

def text : Decoder String
  | .str (some s) => .ok s
  | d => d.refuse

def flag : Decoder Bool
  | .bool b => .ok b
  | d => d.refuse

/-- An integer from `low` to `high`. -/
def integer (low high : Int) : Decoder Int
  | .int n => if low ≤ n ∧ n ≤ high then .ok n else .error .mismatch
  | d => d.refuse

/-- A natural number of at most `high`. -/
def natural (high : Nat) (d : Doc) : Except Fault Nat := (integer 0 high d).map Int.toNat

def list {α : Type} (item : Decoder α) : Decoder (List α)
  | .arr items => items.mapM item
  | d => d.refuse

def optional {α : Type} (value : Decoder α) : Decoder (Option α)
  | .null => .ok none
  | d => (value d).map some

/-- A name out of a catalogue, alone or as the only key of an object with the value null. -/
def named {α : Type} (ofName? : String → Option α) : Decoder α
  | .str (some s) => orRefuse (ofName? s)
  | .obj [(some s, .null)] => orRefuse (ofName? s)
  | d => d.refuse
where
  orRefuse : Option α → Except Fault α
    | some a => .ok a
    | none => .error .mismatch

end Doc

/-- One field of a record: its name, what its value must be, and whether a list of the fields may end
before it. -/
structure FieldRule where
  name : String
  check : Doc → Except Fault Unit
  omittable : Bool

/-- How a record is read: the rules of its fields in order, and the value once every field was looked up. -/
structure Record (α : Type) where
  rules : List FieldRule
  build : (String → Option Doc) → Except Fault α

namespace Record

/-- A record without fields. -/
def const {α : Type} (a : α) : Record α := ⟨[], fun _ => .ok a⟩

/-- The fields of `f`, then those of `r`. -/
def and {α β : Type} (f : Record (α → β)) (r : Record α) : Record β where
  rules := f.rules ++ r.rules
  build fields := do
    let g ← f.build fields
    let a ← r.build fields
    return g a

instance : Applicative Record where
  pure := const
  seq f r := f.and (r ())

private def rule {α : Type} (name : String) (value : Decoder α) (omittable : Bool) : FieldRule :=
  ⟨name, fun d => (value d).map fun _ => (), omittable⟩

/-- A field that must be there. -/
def required {α : Type} (name : String) (value : Decoder α) : Record α where
  rules := [rule name value false]
  build fields :=
    match fields name with
    | some d => value d
    | none => .error .mismatch

/-- A field with a value for when it is missing. -/
def withDefault {α : Type} (name : String) (value : Decoder α) (absent : α) : Record α where
  rules := [rule name value true]
  build fields :=
    match fields name with
    | some d => value d
    | none => .ok absent

/-- A field that may be null or missing. -/
def optional {α : Type} (name : String) (value : Decoder α) : Record (Option α) :=
  withDefault name (Doc.optional value) none

/-- A field that may be null, and missing from an object but not from a list. -/
def nullable {α : Type} (name : String) (value : Decoder α) : Record (Option α) where
  rules := [rule name (Doc.optional value) false]
  build fields :=
    match fields name with
    | some d => Doc.optional value d
    | none => .ok none

/-- The fields of an object, each at most once. -/
def ofMembers (rules : List FieldRule) :
    List (Option String × Doc) → List (String × Doc) → Except Fault (List (String × Doc))
  | [], found => .ok found
  | (none, _) :: _, _ => .error .malformed
  | (some key, value) :: rest, found =>
    match rules.find? (·.name == key) with
    | none => do
      value.skip
      ofMembers rules rest found
    | some rule =>
      if (List.lookup key found).isSome then .error .mismatch
      else do
        rule.check value
        ofMembers rules rest ((key, value) :: found)

/-- The fields of a list, which may be too short only by omittable ones and never too long. -/
def ofItems : List FieldRule → List Doc → Except Fault (List (String × Doc))
  | [], [] => .ok []
  | [], _ :: _ => .error .malformed
  | rule :: rules, [] => if rule.omittable then ofItems rules [] else .error .mismatch
  | rule :: rules, value :: rest =>
    match value with
    | .broken => .error .malformed
    | value => do
      rule.check value
      let found ← ofItems rules rest
      return (rule.name, value) :: found

def decode {α : Type} (r : Record α) : Decoder α
  | .obj members => do
    let found ← ofMembers r.rules members []
    r.build (List.lookup · found)
  | .arr items => do
    let found ← ofItems r.rules items
    r.build (List.lookup · found)
  | d => d.refuse

end Record

/-- The value of a whole text. -/
def Reading.decode {α : Type} (value : Decoder α) (r : Reading) : Except Fault α := do
  let a ← value r.doc
  if r.trailing then .error .malformed else return a

def decode {α : Type} (value : Decoder α) (s : String) : Except Fault α := (read s).decode value

end BookExport.Json
