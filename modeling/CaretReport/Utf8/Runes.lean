import CaretReport.Utf8.Encoding

/-!
# Lenient reading

A lead byte announces how many bytes an encoding has, and which bytes may follow; the ranges leave
exactly the shortest forms of code points that are not surrogates.

Any bytes can be read: a byte with which no encoding starts counts as one replacement, and reading
goes on at the next byte. So each byte belongs to exactly one rune, and the sizes of the runes add
up to the length of what is read.

Reading may start anywhere. A negative start counts from the end; reading then runs up to the end
and goes on from the beginning, so bytes may be seen twice.
-/

namespace CaretReport.Utf8

/-! ### Byte sequences -/

/-- What a lead byte announces about its sequence. -/
structure Lead where
  /-- The number of bytes, lead included. -/
  size : Nat
  /-- The bits of the code point that the lead itself carries. -/
  bits : Nat
  /-- The least second byte. -/
  low : Nat := 0x80
  /-- The greatest second byte. -/
  high : Nat := 0xBF

/-- What byte `b` announces, if it can lead a sequence at all. -/
def Lead.ofByte? (b : UInt8) : Option Lead :=
  let v := b.toNat
  if v < 0x80 then some { size := 1, bits := v }
  else if v < 0xC2 then none
  else if v < 0xE0 then some { size := 2, bits := v - 0xC0 }
  else if v = 0xE0 then some { size := 3, bits := 0, low := 0xA0 }
  else if v = 0xED then some { size := 3, bits := 13, high := 0x9F }
  else if v < 0xF0 then some { size := 3, bits := v - 0xE0 }
  else if v = 0xF0 then some { size := 4, bits := 0, low := 0x90 }
  else if v < 0xF4 then some { size := 4, bits := v - 0xF0 }
  else if v = 0xF4 then some { size := 4, bits := 4, high := 0x8F }
  else none

/-- Continuation bytes carry six bits each. -/
def isContinuation (b : UInt8) : Bool := 0x80 ≤ b.toNat && b.toNat ≤ 0xBF

/-- The longest start of `rest` that the lead accepts after itself. -/
def Lead.tail (lead : Lead) : Bytes → Bytes
  | [] => []
  | b :: rest =>
    if 1 < lead.size && lead.low ≤ b.toNat && b.toNat ≤ lead.high then
      b :: (rest.take (lead.size - 2)).takeWhile isContinuation
    else []

def Lead.point (lead : Lead) (tail : Bytes) : CodePoint :=
  .ofNat (tail.foldl (fun v b => v * 64 + (b.toNat - 0x80)) lead.bits)

/-- The code point whose encoding starts `data`, and the length of that encoding. -/
def first? : Bytes → Option (CodePoint × Nat)
  | [] => none
  | b :: rest => do
    let lead ← Lead.ofByte? b
    let tail := lead.tail rest
    if tail.length + 1 = lead.size then some (lead.point tail, lead.size) else none

/-! ### Runes -/

/-- One step of reading. `point` is missing only where a sequence that starts before the end
stretches past it, see `runesBefore`. -/
structure Rune where
  point : Option CodePoint
  size : Nat
  deriving DecidableEq

def Rune.malformed : Rune := ⟨some .replacement, 1⟩

def Rune.text (r : Rune) : Text := r.point.toList

def runes : Bytes → List Rune
  | [] => []
  | b :: rest =>
    match first? (b :: rest) with
    | some (c, n) => ⟨some c, n⟩ :: runes (rest.drop (n - 1))
    | none => .malformed :: runes rest
termination_by data => data.length
decreasing_by
  · simp only [List.length_drop, List.length_cons]
    omega
  · simp only [List.length_cons]
    omega

def decode (data : Bytes) : Text := (runes data).flatMap Rune.text

/-- The length of the sequence that the first byte of `rest` announces, if that sequence has
several bytes, reaches the end of `rest`, and is no longer than the whole data. -/
def crossing? (data rest : Bytes) : Option Nat := do
  let lead ← Lead.ofByte? (← rest.head?)
  if 1 < lead.size ∧ rest.drop lead.size = [] ∧ data.drop (lead.size - 1) ≠ [] then
    some lead.size
  else none

/-- The runes from a place counted from the end, where `rest` starts. A sequence that reaches the
end from there ends at a position counted from the beginning, in front of where it starts: it holds
no code point, and reading goes on at that position. -/
def runesBefore (data : Bytes) : Bytes → List Rune
  | [] => runes data
  | b :: rest =>
    match crossing? data (b :: rest) with
    | some n => ⟨none, n⟩ :: runes (data.drop (n - (rest.length + 1)))
    | none =>
      match first? (b :: rest) with
      | some (c, n) => ⟨some c, n⟩ :: runesBefore data (rest.drop (n - 1))
      | none => .malformed :: runesBefore data rest
termination_by rest => rest.length
decreasing_by
  · simp only [List.length_drop, List.length_cons]
    omega
  · simp only [List.length_cons]
    omega

/-- Why reading cannot start at an offset. -/
inductive OffsetFault where
  /-- The offset lies before the first byte. -/
  | outOfBounds
  /-- The offset lies below every machine offset. -/
  | unaddressable
  deriving DecidableEq

def OffsetFault.exception : OffsetFault → Exception
  | .outOfBounds => .of .index "index out of bounds on dimension 1"
  | .unaddressable => .of .index "cannot fit 'int' into an index-sized integer"

/-- The runes of `data` from offset `start` on. -/
def runesFrom (data : Bytes) : Int → Except OffsetFault (List Rune)
  | .ofNat n => .ok (runes (data.drop n))
  | .negSucc k =>
    if k < data.length then .ok (runesBefore data (data.drop (data.length - (k + 1))))
    else if k < 0x8000000000000000 then .error .outOfBounds
    else .error .unaddressable

/-- The bytes before offset `start`; a negative offset drops bytes from the end. -/
def upTo (data : Bytes) : Int → Bytes
  | .ofNat n => data.take n
  | .negSucc k => data.take (data.length - (k + 1))

end CaretReport.Utf8
