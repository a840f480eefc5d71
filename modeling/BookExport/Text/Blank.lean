/-! Blank characters and trimming. A character is blank when it has the Unicode property
White_Space; a trimmed text neither begins nor ends with one. -/

namespace BookExport.Text

/-- The 25 characters of the property White_Space. -/
def isBlank (c : Char) : Bool :=
  (0x9 ≤ c.toNat && c.toNat ≤ 0xD) || c.toNat == 0x20 || c.toNat == 0x85 || c.toNat == 0xA0 ||
  c.toNat == 0x1680 || (0x2000 ≤ c.toNat && c.toNat ≤ 0x200A) || c.toNat == 0x2028 ||
  c.toNat == 0x2029 || c.toNat == 0x202F || c.toNat == 0x205F || c.toNat == 0x3000

def dropBlank (cs : List Char) : List Char := cs.dropWhile isBlank

def trimChars (cs : List Char) : List Char := (dropBlank (dropBlank cs).reverse).reverse

def trim (s : String) : String := String.ofList (trimChars s.toList)

/-- The trimmed text, unless nothing is left of it. -/
def nonBlank? (s : String) : Option String :=
  let t := trim s
  if t.isEmpty then none else some t

/-- Lower case for the letters A to Z; every other character stays. -/
def foldCase (s : String) : String := String.ofList (s.toList.map Char.toLower)

theorem dropBlank_head? {cs : List Char} {c : Char} (h : (dropBlank cs).head? = some c) : isBlank c = false := by
  have := List.head?_dropWhile_not isBlank cs
  rw [dropBlank] at h
  rw [h] at this
  simpa using this

end BookExport.Text
