/-! Text in bytes. `pieces` splits a sequence of bytes into characters and into the longest parts
that begin a character and do not finish it; reading strictly or with replacement marks are two
views of that split. -/

namespace BookExport.Text.Utf8

/-- One part of a byte sequence. An `invalid` part is refused by the byte after it, or is one byte
that begins no character; a `cut` part is refused by the end of the sequence. -/
inductive Piece where
  | char (c : Char)
  | invalid (length : Nat)
  | cut (length : Nat)
  deriving DecidableEq, Repr

def Piece.size : Piece → Nat
  | .char c => c.utf8Size
  | .invalid n => n
  | .cut n => n

def isTail (b : UInt8) : Bool := 0x80 ≤ b && b ≤ 0xBF

/-- Which second bytes may follow a first byte of a three or four byte character. -/
def allowsSecond (first second : UInt8) : Bool :=
  if first == 0xE0 then 0xA0 ≤ second && second ≤ 0xBF
  else if first == 0xED then 0x80 ≤ second && second ≤ 0x9F
  else if first == 0xF0 then 0x90 ≤ second && second ≤ 0xBF
  else if first == 0xF4 then 0x80 ≤ second && second ≤ 0x8F
  else isTail second

private def joined (lead : Nat) (tails : List UInt8) : Char :=
  Char.ofNat (tails.foldl (fun n b => n * 64 + b.toNat % 64) lead)

/-- The first piece of a nonempty sequence, and how many bytes after the first it takes. -/
def firstPiece (a : UInt8) (rest : List UInt8) : Piece × Nat :=
  if a < 0x80 then (.char (Char.ofNat a.toNat), 0)
  else if 0xC2 ≤ a ∧ a ≤ 0xDF then
    match rest with
    | [] => (.cut 1, 0)
    | b :: _ => if isTail b then (.char (joined (a.toNat % 32) [b]), 1) else (.invalid 1, 0)
  else if 0xE0 ≤ a ∧ a ≤ 0xEF then
    match rest with
    | [] => (.cut 1, 0)
    | b :: more =>
      if !allowsSecond a b then (.invalid 1, 0)
      else match more with
        | [] => (.cut 2, 1)
        | c :: _ => if isTail c then (.char (joined (a.toNat % 16) [b, c]), 2) else (.invalid 2, 1)
  else if 0xF0 ≤ a ∧ a ≤ 0xF4 then
    match rest with
    | [] => (.cut 1, 0)
    | b :: more =>
      if !allowsSecond a b then (.invalid 1, 0)
      else match more with
        | [] => (.cut 2, 1)
        | c :: more =>
          if !isTail c then (.invalid 2, 1)
          else match more with
            | [] => (.cut 3, 2)
            | d :: _ => if isTail d then (.char (joined (a.toNat % 8) [b, c, d]), 3) else (.invalid 3, 2)
  else (.invalid 1, 0)

def pieces : List UInt8 → List Piece
  | [] => []
  | a :: rest =>
    let (piece, taken) := firstPiece a rest
    piece :: pieces (rest.drop taken)
termination_by bytes => bytes.length
decreasing_by simp only [List.length_drop, List.length_cons]; omega

/-- Where a byte sequence stops being text. -/
structure Fault where
  /-- How many bytes before the fault are text. -/
  validUpTo : Nat
  /-- The length of the refused part, unless the sequence ends inside a character. -/
  length? : Option Nat
  deriving DecidableEq, Repr

def Fault.message (f : Fault) : String :=
  match f.length? with
  | some n => s!"invalid utf-8 sequence of {n} bytes from index {f.validUpTo}"
  | none => s!"incomplete utf-8 byte sequence from index {f.validUpTo}"

private def collect (start : Nat) (done : List Char) : List Piece → Except Fault (List Char)
  | [] => .ok done.reverse
  | .char c :: rest => collect (start + c.utf8Size) (c :: done) rest
  | .invalid n :: _ => .error ⟨start, some n⟩
  | .cut _ :: _ => .error ⟨start, none⟩

/-- The text of a byte sequence that is text throughout. -/
def decode (bytes : List UInt8) : Except Fault (List Char) := collect 0 [] (pieces bytes)

/-- The text of a byte sequence, with U+FFFD in the place of each refused part. -/
def decodeLossy (bytes : List UInt8) : List Char :=
  (pieces bytes).map fun
    | .char c => c
    | _ => '\uFFFD'

/-- The characters of a byte sequence, with `none` in the place of each refused part. -/
def symbols (bytes : List UInt8) : List (Option Char) :=
  (pieces bytes).map fun
    | .char c => some c
    | _ => none

def encode (cs : List Char) : List UInt8 := cs.flatMap String.utf8EncodeChar

end BookExport.Text.Utf8
