import BookExport.Json.Basic

/-! The tokens of a JSON text, read one symbol at a time. A symbol is a character, or `none` where bytes
are no text. Reading stops at the first symbol that fits no token, with the token `bad`. -/

namespace BookExport.Json

abbrev Symbol := Option Char

inductive Token where
  | openList
  | closeList
  | openRecord
  | closeRecord
  | colon
  | comma
  | null
  | bool (b : Bool)
  | int (n : Int)
  /-- A number that is no integer within 64 bits, as it was read. -/
  | real (d : Decimal)
  /-- A string; `none` when it is well formed but stands for no text. -/
  | str (s : Option String)
  | bad
  deriving DecidableEq, Repr, Inhabited

/-- How far a number has been read. In `longWhole` and `longFraction` a digit has come that is not kept. -/
inductive NumeralPart where
  | sign
  | zero
  | whole
  | longWhole
  | point
  | fraction
  | longFraction
  | power
  | powerSign
  | powerDigits
  deriving DecidableEq, Repr

/-- A number in the course of reading. Its digits stay within 64 bits and are to be multiplied by ten to the
power `scale`, and by ten to the power that is written at the end. -/
structure Numeral where
  part : NumeralPart
  negative : Bool
  digits : Nat
  scale : Int
  powerNegative : Bool
  power : Nat
  deriving DecidableEq, Repr

namespace Numeral

def maxDigits : Nat := 18446744073709551615

def start (c : Char) : Numeral :=
  if c = '-' then ⟨.sign, true, 0, 0, false, 0⟩
  else ⟨if c = '0' then .zero else .whole, false, Text.digitValue c, 0, false, 0⟩

/-- The number with one more digit in `part` and the scale changed by `shift`, if the digits still fit. -/
def append? (n : Numeral) (part : NumeralPart) (shift : Int) (c : Char) : Option Numeral :=
  let digits := 10 * n.digits + Text.digitValue c
  if digits ≤ maxDigits then some { n with part, digits, scale := n.scale + shift } else none

/-- A digit before the point. From the first one that does not fit, they only count. -/
def pushWhole (n : Numeral) (c : Char) : Numeral :=
  (n.append? .whole 0 c).getD { n with part := .longWhole, scale := n.scale + 1 }

/-- A digit behind the point. From the first one that does not fit, they say nothing. -/
def pushFraction (n : Numeral) (c : Char) : Numeral :=
  (n.append? .fraction (-1) c).getD { n with part := .longFraction }

/-- The number continued by `c`; `none` when `c` does not belong to it. -/
def push? (n : Numeral) (c : Char) : Option Numeral :=
  let digit := c.isDigit
  match n.part with
  | .sign =>
    if digit then some { n with part := if c = '0' then .zero else .whole, digits := Text.digitValue c } else none
  | .zero => wholeEnd n c
  | .whole => if digit then some (n.pushWhole c) else wholeEnd n c
  | .longWhole => if digit then some { n with scale := n.scale + 1 } else wholeEnd n c
  | .point => if digit then some (n.pushFraction c) else none
  | .fraction => if digit then some (n.pushFraction c) else powerStart n c
  | .longFraction => if digit then some n else powerStart n c
  | .power =>
    if c = '-' then some { n with part := .powerSign, powerNegative := true }
    else if c = '+' then some { n with part := .powerSign }
    else powerDigit n c
  | .powerSign | .powerDigits => powerDigit n c
where
  powerStart (n : Numeral) (c : Char) : Option Numeral :=
    if c = 'e' ∨ c = 'E' then some { n with part := .power } else none
  wholeEnd (n : Numeral) (c : Char) : Option Numeral :=
    if c = '.' then some { n with part := .point } else powerStart n c
  powerDigit (n : Numeral) (c : Char) : Option Numeral :=
    if c.isDigit then some { n with part := .powerDigits, power := 10 * n.power + Text.digitValue c } else none

def fits (n : Int) : Bool := -9223372036854775808 ≤ n && n ≤ 18446744073709551615

/-- A whole number within 64 bits is an integer, but minus zero is not. A zero followed by a digit is no
number, and neither is a number that ends in its sign, its point or its exponent mark. -/
def finish (n : Numeral) (next : Symbol) : Token :=
  let value : Int := if n.negative then -(n.digits : Int) else n.digits
  let power : Int := if n.powerNegative then -(n.power : Int) else n.power
  let real := Token.real ⟨n.negative, n.digits, power + n.scale⟩
  match n.part with
  | .zero =>
    if (next.map Char.isDigit).getD false then .bad else if n.negative then real else .int 0
  | .whole => if fits value then .int value else real
  | .longWhole | .fraction | .longFraction | .powerDigits => real
  | .sign | .point | .power | .powerSign => .bad

end Numeral

/-- Where the reader stands. A string in the course of reading keeps its characters in reverse, or `none`
once it stands for no text, and the first half of an escaped pair while the second has not come. -/
inductive Mode where
  | between
  | word (left : List Char) (token : Token)
  | number (n : Numeral)
  | text (done : Option (List Char)) (half : Option Nat)
  | escape (done : Option (List Char)) (half : Option Nat)
  | hex (done : Option (List Char)) (half : Option Nat) (left value : Nat)
  deriving Repr

/-- What one symbol does: the tokens that it ends, and the mode after it unless reading stops. -/
structure Move where
  tokens : List Token
  next : Option Mode

def isGap (c : Char) : Bool := c == ' ' || c == '\t' || c == '\n' || c == '\r'

def refused : Move := ⟨[.bad], none⟩

def startToken : Symbol → Move
  | none => refused
  | some c =>
    if isGap c then ⟨[], some .between⟩
    else if c = '-' ∨ c.isDigit then ⟨[], some (.number (Numeral.start c))⟩
    else match c with
      | '[' => ⟨[.openList], some .between⟩
      | ']' => ⟨[.closeList], some .between⟩
      | '\x7b' => ⟨[.openRecord], some .between⟩
      | '\x7d' => ⟨[.closeRecord], some .between⟩
      | ':' => ⟨[.colon], some .between⟩
      | ',' => ⟨[.comma], some .between⟩
      | '"' => ⟨[], some (.text (some []) none)⟩
      | 'n' => ⟨[], some (.word ['u', 'l', 'l'] .null)⟩
      | 't' => ⟨[], some (.word ['r', 'u', 'e'] (.bool true))⟩
      | 'f' => ⟨[], some (.word ['a', 'l', 's', 'e'] (.bool false))⟩
      | _ => refused

/-- The characters so far once the next symbol is not the second half of a pair. -/
def settled (done : Option (List Char)) (half : Option Nat) : Option (List Char) :=
  if half.isSome then none else done

def endText (done : Option (List Char)) : Token := .str (done.map fun cs => String.ofList cs.reverse)

/-- The mode after a whole escape by number. Numbers from D800 to DFFF stand for a character only as a
pair, first half first. -/
def afterHex (done : Option (List Char)) (half : Option Nat) (value : Nat) : Mode :=
  match half with
  | some high =>
    if 0xDC00 ≤ value ∧ value ≤ 0xDFFF then
      .text (done.map (Char.ofNat (0x10000 + (high - 0xD800) * 0x400 + (value - 0xDC00)) :: ·)) none
    else .text none none
  | none =>
    if 0xD800 ≤ value ∧ value ≤ 0xDBFF then .text done (some value)
    else if 0xDC00 ≤ value ∧ value ≤ 0xDFFF then .text none none
    else .text (done.map (Char.ofNat value :: ·)) none

def escaped? : Char → Option Char
  | '"' => some '"'
  | '\\' => some '\\'
  | '/' => some '/'
  | 'b' => some '\x08'
  | 'f' => some '\x0c'
  | 'n' => some '\n'
  | 'r' => some '\r'
  | 't' => some '\t'
  | _ => none

def Mode.step : Mode → Symbol → Move
  | .between, s => startToken s
  | .word [] token, s =>
    let move := startToken s
    ⟨token :: move.tokens, move.next⟩
  | .word (c :: left) token, s => if s = some c then ⟨[], some (.word left token)⟩ else refused
  | .number n, s =>
    match s.bind n.push? with
    | some n => ⟨[], some (.number n)⟩
    | none =>
      match n.finish s with
      | .bad => refused
      | token =>
        let move := startToken s
        ⟨token :: move.tokens, move.next⟩
  | .text _ _, none => ⟨[], some (.text none none)⟩
  | .text done half, some c =>
    if c = '"' then ⟨[endText (settled done half)], some .between⟩
    else if c = '\\' then ⟨[], some (.escape done half)⟩
    else if c.toNat < 0x20 then refused
    else ⟨[], some (.text ((settled done half).map (c :: ·)) none)⟩
  | .escape _ _, none => refused
  | .escape done half, some c =>
    if c = 'u' then ⟨[], some (.hex done half 4 0)⟩
    else match escaped? c with
      | some e => ⟨[], some (.text ((settled done half).map (e :: ·)) none)⟩
      | none => refused
  | .hex done half left value, s =>
    match s.bind Text.hexValue? with
    | none => refused
    | some d =>
      let value := 16 * value + d
      if left ≤ 1 then ⟨[], some (afterHex done half value)⟩ else ⟨[], some (.hex done half (left - 1) value)⟩

/-- The tokens that the end of the text ends. -/
def Mode.atEnd : Mode → List Token
  | .between => []
  | .word [] token => [token]
  | .number n => [n.finish none]
  | _ => [.bad]

def tokensFrom (mode : Mode) : List Symbol → List Token
  | [] => mode.atEnd
  | s :: rest =>
    let move := mode.step s
    match move.next with
    | some next => move.tokens ++ tokensFrom next rest
    | none => move.tokens

def tokens (symbols : List Symbol) : List Token := tokensFrom .between symbols

end BookExport.Json
