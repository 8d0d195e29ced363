/-!
# Code points

The unit of every text in this library is a code point of Unicode, the surrogates included.  A file
name need not be well-formed text: each of its stray bytes is held as one low surrogate, and a JSON
string may name half of a surrogate pair.  Both have to survive unchanged from the place where they
are read to the place where they are printed.
-/

namespace ImportAtlas

/-- A code point: a number below `0x110000`, surrogates included. -/
structure CodePoint where
  val : Nat
  isLt : val < 0x110000
deriving DecidableEq

namespace CodePoint

instance : Inhabited CodePoint := ⟨⟨0, by decide⟩⟩

@[ext] theorem ext {a b : CodePoint} (h : a.val = b.val) : a = b := by
  cases a
  cases b
  cases h
  rfl

def ofChar (c : Char) : CodePoint :=
  ⟨c.toNat, by
    have valid := c.valid
    simp only [UInt32.isValidChar, Nat.isValidChar] at valid
    show c.val.toNat < 0x110000
    omega⟩

instance : Coe Char CodePoint := ⟨ofChar⟩

theorem ofChar_injective {a b : Char} (h : ofChar a = ofChar b) : a = b := by
  apply Char.ext
  apply UInt32.toNat_inj.1
  exact congrArg CodePoint.val h

@[simp] theorem ofChar_inj {a b : Char} : ofChar a = ofChar b ↔ a = b :=
  ⟨ofChar_injective, fun h => h ▸ rfl⟩

/-- The code point with a given number, or U+FFFD when there is none. -/
def ofNat (n : Nat) : CodePoint :=
  if h : n < 0x110000 then ⟨n, h⟩ else ⟨0xFFFD, by decide⟩

theorem val_ofNat {n : Nat} (h : n < 0x110000) : (ofNat n).val = n := by
  simp [ofNat, h]

/-!
# Classes of code points

ASCII classes and the two halves of the surrogate range are intervals.  The classes that follow a
table of Unicode have modules of their own.
-/

def isDigit (c : CodePoint) : Bool := 48 ≤ c.val && c.val ≤ 57

def isLetter (c : CodePoint) : Bool :=
  (65 ≤ c.val && c.val ≤ 90) || (97 ≤ c.val && c.val ≤ 122)

def isHighSurrogate (c : CodePoint) : Bool := 0xD800 ≤ c.val && c.val ≤ 0xDBFF

def isLowSurrogate (c : CodePoint) : Bool := 0xDC00 ≤ c.val && c.val ≤ 0xDFFF

def isSurrogate (c : CodePoint) : Bool := 0xD800 ≤ c.val && c.val ≤ 0xDFFF

def toAsciiLower (c : CodePoint) : CodePoint :=
  if 65 ≤ c.val && c.val ≤ 90 then ofNat (c.val + 32) else c

end CodePoint

end ImportAtlas
