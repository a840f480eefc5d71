/-! Media types: a type, a subtype that may end in a suffix, and parameters. Names are tokens and compare
without regard to case; the value of a parameter is a token or stands between quotes. -/

namespace BookExport.Http

structure MediaType where
  type : String
  subtype : String
  suffix : Option String
  deriving DecidableEq, Repr

namespace MediaType

/-- Letters, digits and fifteen signs. Two of the signs are written by number: the apostrophe and the grave
accent. -/
def isTokenChar (c : Char) : Bool :=
  c.isAlphanum || c ∈ ['!', '#', '$', '%', '&', '*', '+', '-', '.', '^', '_', '|', '~'] ||
  c.toNat == 0x27 || c.toNat == 0x60

/-- Between quotes the space and every printed character of ASCII may stand. -/
def isQuotedChar (c : Char) : Bool := 0x20 ≤ c.toNat && c.toNat < 0x7F

/-- What is read next among the parameters: a name that has not begun, the rest of a name, a value that has
not begun, the rest of a value, a quoted value, or what follows one. A quoted value is not empty: a quote
right after the first one belongs to it. -/
inductive Expect where
  | name
  | restOfName
  | value
  | restOfValue
  | quoted (isEmpty : Bool)
  | afterQuoted
  deriving DecidableEq, Repr

def Expect.next? : Expect → Char → Option Expect
  | .name, c => if c = ' ' then some .name else if isTokenChar c then some .restOfName else none
  | .restOfName, c => if c = '=' then some .value else if isTokenChar c then some .restOfName else none
  | .value, c => if c = '"' then some (.quoted true) else if isTokenChar c then some .restOfValue else none
  | .restOfValue, c => if c = ';' then some .name else if isTokenChar c then some .restOfValue else none
  | .quoted isEmpty, c =>
    if c = '"' ∧ !isEmpty then some .afterQuoted else if isQuotedChar c then some (.quoted false) else none
  | .afterQuoted, c => if c = ';' then some .name else if c = ' ' then some .afterQuoted else none

/-- Whether the parameters may end here. A semicolon may stand last, also with spaces behind it. -/
def Expect.mayEnd : Expect → Bool
  | .name | .value | .restOfValue | .afterQuoted => true
  | .restOfName | .quoted _ => false

def areParameters (cs : List Char) : Bool :=
  match cs.foldlM Expect.next? .name with
  | some e => e.mayEnd
  | none => false

/-- The parts of a subtype around its last plus sign, unless it begins with that sign. -/
def splitSuffix (cs : List Char) : List Char × Option (List Char) :=
  let suffix := (cs.reverse.takeWhile (· != '+')).reverse
  let front := cs.take (cs.length - suffix.length - 1)
  if '+' ∈ cs ∧ front ≠ [] then (front, some suffix) else (cs, none)

/-- A semicolon ends the subtype and begins the parameters. -/
def read? (s : String) : Option MediaType :=
  let cs := s.toList.map Char.toLower
  let type := cs.takeWhile isTokenChar
  match cs.drop type.length with
  | '/' :: rest =>
    let subtype := rest.takeWhile isTokenChar
    let known : MediaType :=
      let (front, suffix) := splitSuffix subtype
      ⟨String.ofList type, String.ofList front, suffix.map String.ofList⟩
    if type.isEmpty then none
    else
      match rest.drop subtype.length with
      | [] => some known
      | ';' :: parameters => if !subtype.isEmpty ∧ areParameters parameters then some known else none
      | _ => none
  | _ => none

/-- Whether content of a type is JSON. -/
def isJson (m : MediaType) : Bool := m.type == "application" && (m.subtype == "json" || m.suffix == some "json")

end MediaType
end BookExport.Http
