import BookExport.Binary64.Shortest
import BookExport.Json.Basic

/-! JSON values as text, without blanks. A string escapes the quote, the backslash and the controls. A number
in floating point has the fewest digits that read back. -/

namespace BookExport.Json

def escape (c : Char) : List Char :=
  match c with
  | '"' => ['\\', '"']
  | '\\' => ['\\', '\\']
  | '\n' => ['\\', 'n']
  | '\r' => ['\\', 'r']
  | '\t' => ['\\', 't']
  | '\x08' => ['\\', 'b']
  | '\x0c' => ['\\', 'f']
  | c =>
    if c.toNat < 0x20 then ['\\', 'u', '0', '0', Text.hexDigit (c.toNat / 16), Text.hexDigit (c.toNat % 16)]
    else [c]

def printText (s : String) : List Char := '"' :: (s.toList.flatMap escape ++ ['"'])

mutual

def print : Json → List Char
  | .null => ['n', 'u', 'l', 'l']
  | .bool true => ['t', 'r', 'u', 'e']
  | .bool false => ['f', 'a', 'l', 's', 'e']
  | .int n => (Text.decimalInt n).toList
  | .real x => x.toDecimal.render
  | .str s => printText s
  | .arr [] => ['[', ']']
  | .arr (item :: rest) => '[' :: (print item ++ printItems rest)
  | .obj [] => ['\x7b', '\x7d']
  | .obj ((key, value) :: rest) => '\x7b' :: (printText key ++ ':' :: (print value ++ printMembers rest))

/-- The items after the first, each behind a comma, and the closing bracket. -/
def printItems : List Json → List Char
  | [] => [']']
  | item :: rest => ',' :: (print item ++ printItems rest)

def printMembers : List (String × Json) → List Char
  | [] => ['\x7d']
  | (key, value) :: rest => ',' :: (printText key ++ ':' :: (print value ++ printMembers rest))

end

def render (j : Json) : String := String.ofList (print j)

end BookExport.Json
