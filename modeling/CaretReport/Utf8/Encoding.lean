import CaretReport.Host.Machine

/-!
# Texts as bytes

The standard encoding of a code point takes one to four bytes. Surrogates have none: a text that
holds one is refused, and the refusal names the first run of them.
-/

namespace CaretReport

abbrev Bytes := List UInt8

/-- The bytes that encode a code point. Surrogates are encoded by the same rule, but
`Text.encode` never asks for one. -/
def CodePoint.utf8 (c : CodePoint) : Bytes :=
  let v := c.val
  if v < 0x80 then [v.toUInt8]
  else if v < 0x800 then [(0xC0 + v / 64).toUInt8, (0x80 + v % 64).toUInt8]
  else if v < 0x10000 then
    [(0xE0 + v / 4096).toUInt8, (0x80 + v / 64 % 64).toUInt8, (0x80 + v % 64).toUInt8]
  else
    [(0xF0 + v / 262144).toUInt8, (0x80 + v / 4096 % 64).toUInt8, (0x80 + v / 64 % 64).toUInt8,
      (0x80 + v % 64).toUInt8]

/-- Why a text has no encoding: its first run of surrogates. -/
structure Unencodable where
  /-- How many code points stand before the run. -/
  start : Nat
  first : CodePoint
  more : Nat
  deriving DecidableEq

/-- One surrogate is named by its number, a longer run by its first and last positions. -/
def Unencodable.message (e : Unencodable) : Text :=
  if e.more = 0 then
    "'utf-8' codec can't encode character '\\u" ++ Text.ofNatPadded 16 4 e.first.val ++
      "' in position " ++ Text.ofNat e.start ++ ": surrogates not allowed"
  else
    "'utf-8' codec can't encode characters in position " ++ Text.ofNat e.start ++ "-" ++
      Text.ofNat (e.start + e.more) ++ ": surrogates not allowed"

def Unencodable.exception (e : Unencodable) : Exception := .of .unicodeEncode e.message

namespace Text

/-- The first run of surrogates, if there is one. -/
def surrogates? (t : Text) : Option Unencodable :=
  let before := t.takeWhile fun c => !c.isSurrogate
  match t.drop before.length with
  | [] => none
  | c :: rest => some ⟨before.length, c, (rest.takeWhile CodePoint.isSurrogate).length⟩

def utf8 (t : Text) : Bytes := t.flatMap CodePoint.utf8

def encode (t : Text) : Except Unencodable Bytes :=
  match t.surrogates? with
  | some e => .error e
  | none => .ok t.utf8

end Text

/-- A buffer as it is handed over: bytes, or a text that has still to be encoded. The number of
their items is a machine integer. -/
inductive Buffer where
  | bytes (b : Bytes) (h : isMachineInt b.length)
  | text (t : Text) (h : isMachineInt t.length)

namespace Buffer

def encode : Buffer → Except Unencodable Bytes
  | bytes b _ => .ok b
  | text t _ => t.encode

def isEmpty : Buffer → Bool
  | bytes b _ => b.isEmpty
  | text t _ => t.isEmpty

end Buffer

end CaretReport
