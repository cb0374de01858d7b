import CaretReport.Host.Exception

/-!
# Limits of the machine

What a program can compute is limited by the machine and the interpreter that it runs on: integers
can have too many digits to be written, and texts can be too long for memory. These limits are data
(`Machine`), and whatever can run into one of them is given the machine. `Machine.usual` is one that
programs are commonly run on.

A text can be repeated any number of times that is a machine integer; a negative number counts as
zero. The length of a text has to be a machine integer too, and a text that is put together from
others has to find its place in memory.
-/

namespace CaretReport

/-- What a machine, with the interpreter on it, allows. -/
structure Machine where
  /-- The greatest number of digits that an integer is written with, if there is one. -/
  digits : Option Nat
  /-- No interpreter can be told to write fewer digits than these. -/
  digits_ge : ∀ limit ∈ digits, 640 ≤ limit
  /-- Whether memory holds a text so many times in a row. -/
  holds : Nat → Text → Bool
  /-- How deep values may lie in others that are to be written. -/
  depth : Nat

/-- The limits that an interpreter has unless it is told others. A text takes at least one byte for
each code point, and no process has more than `2 ^ 47` of them. -/
def Machine.usual : Machine where
  digits := some 4300
  digits_ge := by decide
  holds n t := n * t.length < 0x800000000000
  depth := 990

def isMachineInt (n : Int) : Bool := -0x8000000000000000 ≤ n && n < 0x8000000000000000

/-! ### Writing integers -/

def Exception.tooManyDigits (limit : Nat) : Exception :=
  .of .value ("Exceeds the limit (" ++ Text.ofNat limit ++
    " digits) for integer string conversion; " ++
    "use sys.set_int_max_str_digits() to increase the limit")

namespace Machine

variable (m : Machine)

def decimal (n : Nat) : Except Exception Text :=
  let digits := Text.ofNat n
  match m.digits with
  | none => .ok digits
  | some limit => if digits.length ≤ limit then .ok digits else .error (.tooManyDigits limit)

/-- The decimal digits of `i`, behind a minus sign if it is negative. -/
def decimalInt : Int → Except Exception Text
  | .ofNat n => m.decimal n
  | .negSucc n => ("-" ++ ·) <$> m.decimal (n + 1)

end Machine

/-! ### Putting texts together -/

namespace Text

/-- Why a text cannot be put together from others. -/
inductive Fault where
  /-- The number of repetitions is no machine integer. -/
  | count
  /-- The length of the repeated text is no machine integer. -/
  | repetition
  /-- The length of two texts in a row is no machine integer. -/
  | join
  | memory
  deriving DecidableEq

def Fault.exception : Fault → Exception
  | .count => .of .overflow "cannot fit 'int' into an index-sized integer"
  | .repetition => .of .overflow "repeated string is too long"
  | .join => .of .overflow "strings are too large to concat"
  | .memory => .of .memory ""

def times (n : Nat) (t : Text) : Text := (List.replicate n t).flatten

end Text

namespace Machine

variable (m : Machine)

/-- A text repeated `n` times. Nothing is put together if the result is empty or the text itself. -/
def repeated (n : Int) (t : Text) : Except Text.Fault Text :=
  if !isMachineInt n then .error .count
  else if n ≤ 0 ∨ t.isEmpty then .ok []
  else if n = 1 then .ok t
  else if !isMachineInt (n * t.length) then .error .repetition
  else if m.holds n.toNat t then .ok (Text.times n.toNat t)
  else .error .memory

/-- Two texts in a row. Nothing is put together if one of them is empty. -/
def append (t u : Text) : Except Text.Fault Text :=
  if t.isEmpty then .ok u
  else if u.isEmpty then .ok t
  else if !isMachineInt (t.length + u.length) then .error .join
  else if m.holds 1 (t ++ u) then .ok (t ++ u)
  else .error .memory

end Machine

end CaretReport
