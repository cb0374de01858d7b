import CaretReport.Utf8.Runes

/-!
# Strict reading

Bytes are read one at a time, and the first byte that cannot belong to an encoding ends the
reading. What is reported then is the lead of the broken sequence with the bytes that fit it.
-/

namespace CaretReport.Utf8

inductive Defect where
  | start
  | continuation
  | cutOff
  deriving DecidableEq

structure Malformed where
  defect : Defect
  offset : Nat
  lead : UInt8
  /-- How many bytes fit behind the lead. -/
  more : Nat
  deriving DecidableEq

def Defect.message : Defect → Text
  | .start => "invalid start byte"
  | .continuation => "invalid continuation byte"
  | .cutOff => "unexpected end of data"

/-- One byte is named by its value, several by the first and the last offset. -/
def Malformed.message (e : Malformed) : Text :=
  (if e.more = 0 then
    "'utf-8' codec can't decode byte 0x" ++ Text.ofNatPadded 16 2 e.lead.toNat ++
      " in position " ++ Text.ofNat e.offset
  else
    "'utf-8' codec can't decode bytes in position " ++ Text.ofNat e.offset ++ "-" ++
      Text.ofNat (e.offset + e.more)) ++ ": " ++ e.defect.message

def Malformed.exception (e : Malformed) : Exception := .of .unicodeDecode e.message

/-- A sequence of which the lead has been read. -/
structure Pending where
  offset : Nat
  lead : UInt8
  /-- How many bytes have been read behind the lead. -/
  more : Nat
  /-- How many bytes are still missing after the next one. -/
  missing : Nat
  bits : Nat
  /-- The least next byte. -/
  low : Nat
  /-- The greatest next byte. -/
  high : Nat

def Pending.broken (p : Pending) (defect : Defect) : Malformed := ⟨defect, p.offset, p.lead, p.more⟩

/-- The text of data, of which the next byte stands at `offset`, inside a sequence or between
two. -/
def readFrom (offset : Nat) : Option Pending → Bytes → Except Malformed Text
  | none, [] => .ok []
  | some p, [] => .error (p.broken .cutOff)
  | none, b :: rest =>
    match Lead.ofByte? b with
    | none => .error ⟨.start, offset, b, 0⟩
    | some lead =>
      if lead.size = 1 then (CodePoint.ofNat lead.bits :: ·) <$> readFrom (offset + 1) none rest
      else
        readFrom (offset + 1)
          (some ⟨offset, b, 0, lead.size - 2, lead.bits, lead.low, lead.high⟩) rest
  | some p, b :: rest =>
    if p.low ≤ b.toNat ∧ b.toNat ≤ p.high then
      let bits := p.bits * 64 + (b.toNat - 0x80)
      match p.missing with
      | 0 => (CodePoint.ofNat bits :: ·) <$> readFrom (offset + 1) none rest
      | missing + 1 =>
        readFrom (offset + 1) (some ⟨p.offset, p.lead, p.more + 1, missing, bits, 0x80, 0xBF⟩) rest
    else .error (p.broken .continuation)

def read (data : Bytes) : Except Malformed Text := readFrom 0 none data

end CaretReport.Utf8
