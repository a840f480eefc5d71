import BookExport.Text.Digits
import BookExport.Text.Utf8

/-! Form-encoded queries: pairs are joined by ampersands, a plus sign is a space, and a percent sign
with two hexadecimal digits is a byte. Anything else stands for itself, a lone percent sign too. -/

namespace BookExport.Text.Form

/-- Puts a byte in the place of each percent sign with two hexadecimal digits. -/
def unescape : List UInt8 → List UInt8
  | [] => []
  | 0x25 :: h :: l :: rest =>
    match hexValue? (Char.ofNat h.toNat), hexValue? (Char.ofNat l.toNat) with
    | some high, some low => UInt8.ofNat (16 * high + low) :: unescape rest
    | _, _ => 0x25 :: unescape (h :: l :: rest)
  | b :: rest => b :: unescape rest

def decodeBytes (bytes : List UInt8) : List UInt8 :=
  unescape (bytes.map fun b => if b = 0x2B then 0x20 else b)

/-- The text of one encoded name or value; bytes that are no text become replacement marks. -/
def decodeField (cs : List Char) : String :=
  String.ofList (Utf8.decodeLossy (decodeBytes (Utf8.encode cs)))

/-- A pair ends its name at the first equals sign; without one the value is empty. -/
def decodePair (cs : List Char) : String × String :=
  (decodeField (cs.takeWhile (· != '=')), decodeField ((cs.dropWhile (· != '=')).drop 1))

def decode (query : String) : List (String × String) :=
  ((query.toList.splitOn '&').filter (!·.isEmpty)).map decodePair

end BookExport.Text.Form
