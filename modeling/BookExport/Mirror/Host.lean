import BookExport.Text.Digits

/-! Hosts in the addresses of stores: a name, or a number of eight groups between brackets. -/

namespace BookExport.Mirror.Host

/-- One part of a dotted number: from zero to 255, without zeros before it. -/
def isOctet (cs : List Char) : Bool :=
  !cs.isEmpty && cs.all Char.isDigit && cs.length ≤ 3 && (cs.length == 1 || cs.head? != some '0') &&
    Text.valueOf cs ≤ 255

def isDotted (cs : List Char) : Bool :=
  let parts := cs.splitOn '.'
  parts.length == 4 && parts.all isOctet

def isGroup (cs : List Char) : Bool :=
  !cs.isEmpty && cs.length ≤ 4 && cs.all fun c => (Text.hexValue? c).isSome

/-- How many groups stand between colons. A dotted number may stand last, if `allowsDotted`, for two of them. -/
def groups? (allowsDotted : Bool) (cs : List Char) : Option Nat :=
  if cs.isEmpty then some 0
  else
    let parts := cs.splitOn ':'
    let last := parts.getLast?.getD []
    if !parts.dropLast.all isGroup then none
    else if isGroup last then some parts.length
    else if allowsDotted ∧ isDotted last then some (parts.length + 1)
    else none

/-- The texts around the first two colons that stand together. -/
def splitGap : List Char → Option (List Char × List Char)
  | ':' :: ':' :: rest => some ([], rest)
  | c :: rest => (splitGap rest).map fun (front, back) => (c :: front, back)
  | [] => none

/-- Eight groups, or fewer around one gap. -/
def isNumber (cs : List Char) : Bool :=
  match splitGap cs with
  | none => groups? true cs == some 8
  | some (front, back) =>
    match groups? false front, groups? true back with
    | some before, some after => before + after ≤ 7
    | _, _ => false

/-- Controls may stand in a name, but for the null character. -/
def isNameChar (c : Char) : Bool :=
  c.toNat != 0 && c ∉ [' ', '#', '/', ':', '<', '>', '?', '@', '[', '\\', ']', '^', '|']

/-- Splits what begins with a host behind it. A name may be empty. -/
def split? (cs : List Char) : Option (List Char × List Char) :=
  match cs with
  | '[' :: rest =>
    let number := rest.takeWhile (· != ']')
    match rest.drop number.length with
    | ']' :: rest => if isNumber number then some ('[' :: number ++ [']'], rest) else none
    | _ => none
  | cs =>
    let name := cs.takeWhile fun c => c ∉ [':', '/', '?', '#']
    if name.all isNameChar then some (name, cs.drop name.length) else none

end BookExport.Mirror.Host
