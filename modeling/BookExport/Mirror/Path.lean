import BookExport.Text.Digits

/-! Paths in the addresses of stores. A part of one dot stands for nothing, and a part of two dots takes away
the part before it; a dot may be written by its number. -/

namespace BookExport.Mirror.Path

/-- How many dots a part stands for, if it is made of nothing else. -/
def dots? : List Char → Option Nat
  | [] => some 0
  | '.' :: rest => (dots? rest).map (· + 1)
  | '%' :: '2' :: 'e' :: rest | '%' :: '2' :: 'E' :: rest => (dots? rest).map (· + 1)
  | _ :: _ => none

/-- Whether a part is a letter with a colon or a bar, which names a drive. -/
def isDrive : List Char → Bool
  | [letter, mark] => letter.isAlpha && (mark == ':' || mark == '|')
  | _ => false

/-- Takes away the part before, which stands first here, unless it names a drive. -/
def dropLast (before : List (List Char)) : List (List Char) :=
  match before with
  | [] => []
  | part :: rest => if isDrive part then before else rest

/-- The parts of a path without its dots, behind those `before` them in reverse. -/
def resolve (before : List (List Char)) : List (List Char) → List (List Char)
  | [] => before.reverse
  | part :: rest =>
    if dots? part = some 1 then resolve before rest
    else if dots? part = some 2 then resolve (dropLast before) rest
    else resolve (part :: before) rest

/-- The parts of the path that begins an address's remainder and ends before its query and its fragment. -/
def parts (cs : List Char) : List (List Char) :=
  let path := cs.takeWhile fun c => c != '?' && c != '#'
  resolve [] ((if path.head? = some '/' then path.drop 1 else path).splitOn '/')

def join (parts : List (List Char)) : List Char := List.intercalate ['/'] parts

/-- A text without the slashes at its ends. -/
def trimSlashes (cs : List Char) : List Char :=
  ((cs.dropWhile (· == '/')).reverse.dropWhile (· == '/')).reverse

end BookExport.Mirror.Path
