/-!
# Code points and texts

A text is a list of code points. A code point may be a surrogate, which `Char` excludes: such a
text can be carried and printed in messages, and is refused only when it has to be encoded.

Integers are written in a base between two and sixteen, lower case, without leading zeros. The
blanks are the spaces, tabulators and line breaks of all scripts, and the four separators of ASCII.
Three of those separators, and the paragraph separator, also break lines.
-/

namespace CaretReport

/-- A position of the Unicode code space, surrogates included. -/
structure CodePoint where
  val : Nat
  val_lt : val < 0x110000
  deriving DecidableEq

abbrev Text := List CodePoint

namespace CodePoint

/-- U+FFFD, shown for bytes that are not text. -/
def replacement : CodePoint := ⟨0xFFFD, by decide⟩

/-- The code point of value `n`; values outside the code space give the replacement. -/
def ofNat (n : Nat) : CodePoint :=
  if h : n < 0x110000 then ⟨n, h⟩ else replacement

theorem val_ofNat {n : Nat} (h : n < 0x110000) : (ofNat n).val = n := by
  simp [ofNat, h]

theorem ofNat_val (c : CodePoint) : ofNat c.val = c := by
  simp [ofNat, c.val_lt]

theorem toNat_lt_of_char (c : Char) : c.toNat < 0x110000 := by
  have h := c.valid
  simp only [UInt32.isValidChar, Nat.isValidChar] at h
  show c.val.toNat < _
  omega

def ofChar (c : Char) : CodePoint := ⟨c.toNat, toNat_lt_of_char c⟩

instance : Coe Char CodePoint := ⟨ofChar⟩

/-- Surrogates are the code points that no character and no encoding has. -/
def isSurrogate (c : CodePoint) : Bool := 0xD800 ≤ c.val && c.val ≤ 0xDFFF

def toChar? (c : CodePoint) : Option Char :=
  if c.isSurrogate then none else some (Char.ofNat c.val)

/-- The upper case of a letter of ASCII; any other code point as it is. -/
def toUpper (c : CodePoint) : CodePoint :=
  if 0x61 ≤ c.val ∧ c.val ≤ 0x7A then .ofNat (c.val - 0x20) else c

def isBlank (c : CodePoint) : Bool :=
  (0x09 ≤ c.val && c.val ≤ 0x0D) || (0x1C ≤ c.val && c.val ≤ 0x20) || c.val == 0x85 ||
    c.val == 0xA0 || c.val == 0x1680 || (0x2000 ≤ c.val && c.val ≤ 0x200A) || c.val == 0x2028 ||
    c.val == 0x2029 || c.val == 0x202F || c.val == 0x205F || c.val == 0x3000

def isLineBreak (c : CodePoint) : Bool :=
  (0x0A ≤ c.val && c.val ≤ 0x0D) || (0x1C ≤ c.val && c.val ≤ 0x1E) || c.val == 0x85 ||
    c.val == 0x2028 || c.val == 0x2029

end CodePoint

namespace Text

def ofString (s : String) : Text := s.toList.map CodePoint.ofChar

instance : Coe String Text := ⟨ofString⟩

def spaces (n : Nat) : Text := List.replicate n ' '

def joinWith (sep : Text) : List Text → Text
  | [] => []
  | [t] => t
  | t :: u :: ts => t ++ sep ++ joinWith sep (u :: ts)

/-! ### Digits -/

def ofNatBase (base n : Nat) : Text := (Nat.toDigits base n).map CodePoint.ofChar

def ofNat (n : Nat) : Text := ofNatBase 10 n

theorem val_of_mem_ofNat {n : Nat} {c : CodePoint} (h : c ∈ ofNat n) :
    0x30 ≤ c.val ∧ c.val ≤ 0x39 := by
  obtain ⟨ch, hch, rfl⟩ := List.mem_map.1 h
  exact Char.isDigit_iff_toNat.1 (Nat.isDigit_of_mem_toDigits (by decide) (by decide) hch)

/-- The digits of `n` in base `base`, with zeros in front up to `width` digits. -/
def ofNatPadded (base width n : Nat) : Text :=
  let digits := ofNatBase base n
  List.replicate (width - digits.length) ('0' : CodePoint) ++ digits

/-! ### Lines and blanks -/

/-- The stretches between line breaks; an empty last stretch is left out. -/
def lines : Text → List Text
  | [] => []
  | c :: rest =>
    if c.isLineBreak then [] :: lines rest
    else match lines rest with
      | [] => [[c]]
      | l :: ls => (c :: l) :: ls

def trim (t : Text) : Text :=
  ((t.dropWhile CodePoint.isBlank).reverse.dropWhile CodePoint.isBlank).reverse

/-- A text whose carriage returns, with a line feed behind them or not, have become line feeds.
`returned` says that a carriage return stands in front of it. -/
def unifyFrom (returned : Bool) : Text → Text
  | [] => []
  | c :: rest =>
    if c = '\r' then CodePoint.ofChar '\n' :: unifyFrom true rest
    else if c = '\n' ∧ returned then unifyFrom false rest
    else c :: unifyFrom false rest

/-- A text in which every line end is a line feed. -/
def unifyNewlines (t : Text) : Text := unifyFrom false t

end Text

end CaretReport
