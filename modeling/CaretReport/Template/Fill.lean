import CaretReport.Template.Directive
import CaretReport.Value.Basic

/-!
# Filling a template

The letter of a directive says what is done to an argument. The outcome is a content: something that
a field can show, whatever its width and its precision are. A field is padded to its width; whether
it has a text is known before it is written.

Directives take the arguments in order: first one for a width, then one for a precision, if the
template leaves them open, then one to convert. Each argument has to be taken. Without arguments a
template is plain text.
-/

namespace CaretReport.Template

/-! ### Conversions -/

inductive RealLayout where
  | scientific
  | fixed
  | general

inductive Content where
  | text (t : Text)
  | character (c : CodePoint)
  /-- An integer in a base, with the mark of that base. -/
  | integer (base : Nat) (mark : Text) (upper : Bool) (i : Int)
  | real (layout : RealLayout) (upper : Bool) (x : Binary64)

/-- A number that an object answers. An answer of the wrong type is the fault of the conversion. -/
def answered {α : Type} (mistyped : Fault) : Except Exception α → Except Fault α
  | .ok a => .ok a
  | .error e => .error (if e.isA .type then mistyped else .raised e)

def truncate (letter : CodePoint) (v : Value) : Except Fault Int :=
  match v, v.integer? with
  | _, some i => .ok i
  | .real .nan, _ => .error .nanToInteger
  | .real (.infinite _), _ => .error .infinityToInteger
  | .real (.finite s m q), _ =>
    let n : Int := Binary64.floor m q
    .ok (if s then -n else n)
  | .object o, _ => answered (.notNumber letter o.kind) o.whole
  | v, _ => .error (.notNumber letter v.kind)

def real (v : Value) : Except Fault Binary64 :=
  match v, v.integer? with
  | .real x, _ => .ok x
  | .object o, _ => o.real.mapError .raised
  | _, some i => match Binary64.ofInt i with
    | .infinite _ => .error .realOutOfRange
    | x => .ok x
  | _, none => .error (.notReal v.kind)

/-- The integer that a value is, or can take the place of. -/
def index (mistyped : Fault) (v : Value) : Except Fault Int :=
  match v, v.integer? with
  | _, some i => .ok i
  | .object o, none => answered mistyped o.index
  | _, none => .error mistyped

def character (v : Value) : Except Fault CodePoint :=
  match v.text? with
  | some [c] => .ok c
  | some _ => .error .notCharacter
  | none => do
    let i ← index .notCharacter v
    if 0 ≤ i ∧ i < 0x110000 then .ok (.ofNat i.toNat) else .error .characterOutOfRange

inductive Conversion where
  | text
  | literal
  | ascii
  /-- It is a character, or the number of one. -/
  | character
  | decimal
  /-- It is an integer, written in a base behind a mark of that base. -/
  | inBase (base : Nat) (mark : Text) (upper : Bool)
  | real (layout : RealLayout) (upper : Bool)

namespace Conversion

def ofLetter? (letter : CodePoint) : Option Conversion :=
  match letter.toChar? with
  | some 's' => some .text
  | some 'r' => some .literal
  | some 'a' => some .ascii
  | some 'c' => some .character
  | some 'd' | some 'i' | some 'u' => some .decimal
  | some 'o' => some (.inBase 8 "0o" false)
  | some 'x' => some (.inBase 16 "0x" false)
  | some 'X' => some (.inBase 16 "0X" true)
  | some 'e' => some (.real .scientific false)
  | some 'E' => some (.real .scientific true)
  | some 'f' => some (.real .fixed false)
  | some 'F' => some (.real .fixed true)
  | some 'g' => some (.real .general false)
  | some 'G' => some (.real .general true)
  | _ => none

/-- What an argument becomes; faults name the letter of the conversion. -/
def apply (m : Machine) (letter : CodePoint) (v : Value) : Conversion → Except Fault Content
  | .text => .text <$> (v.toText m).mapError .raised
  | .literal => .text <$> (v.literal m).mapError .raised
  | .ascii => (.text ∘ Text.toAscii) <$> (v.literal m).mapError .raised
  | .character => .character <$> Template.character v
  | .decimal => .integer 10 "" false <$> truncate letter v
  | .inBase base mark upper =>
    .integer base mark upper <$> index (.notInteger letter v.kind) v
  | .real layout upper => .real layout upper <$> Template.real v

end Conversion

/-! ### Fields -/

/-- A directive whose width and precision are known. Width zero asks for no padding. -/
structure Field where
  flags : Flags
  width : Nat
  precision : Option Nat

/-- A number that is not negative in a layout. The scientific form counts one digit more than its
precision says: the greatest precision leaves no room for it, and counts as none. -/
def RealLayout.text (layout : RealLayout) (alternate : Bool) (precision m : Nat) (q : Int) : Text :=
  let (n, k) := Binary64.decimal m q
  match layout with
  | .scientific =>
    Number.scientific alternate (if precision < maxPrecision then precision else 0) n k
  | .fixed => Number.fixed alternate precision n k
  | .general => Number.general alternate precision n k

namespace Field

def pad (f : Field) (t : Text) : Text :=
  let fill := Text.spaces (f.width - t.length)
  if f.flags.left then t ++ fill else fill ++ t

def sign (f : Field) (negative : Bool) : Text :=
  if negative then "-" else if f.flags.plus then "+" else if f.flags.blank then " " else ""

/-- A number, with zeros between its sign and base and its digits if the flags ask for them. -/
def padNumber (f : Field) (negative : Bool) (base digits : Text) : Text :=
  let start := f.sign negative ++ base
  if f.flags.zero && !f.flags.left then
    start ++ Number.zeros (f.width - start.length - digits.length) ++ digits
  else f.pad (start ++ digits)

def text (f : Field) (t : Text) : Text :=
  f.pad (match f.precision with
    | some n => t.take n
    | none => t)

/-- An integer with at least as many digits as the precision says. -/
def integer (f : Field) (base : Nat) (mark : Text) (upper : Bool) (i : Int) : Text :=
  let digits := Text.ofNatPadded base (f.precision.getD 0) i.natAbs
  f.padNumber (i < 0) (if f.flags.alternate then mark else "")
    (if upper then digits.map CodePoint.toUpper else digits)

/-- A floating-point number; without a precision, six digits are meant. -/
def real (f : Field) (layout : RealLayout) (upper : Bool) (x : Binary64) : Text :=
  let digits : Text := match x with
    | .nan => "nan"
    | .infinite _ => "inf"
    | .finite _ m q => layout.text f.flags.alternate (f.precision.getD 6) m q
  f.padNumber x.isNegative "" (if upper then digits.map CodePoint.toUpper else digits)

def render (f : Field) : Content → Text
  | .text t => f.text t
  | .character c => f.pad [c]
  | .integer base mark upper i => f.integer base mark upper i
  | .real layout upper x => f.real layout upper x

/-- The greatest number of digits that a precision can ask of an integer. -/
def maxDigits : Nat := 0x7FFFFFFC

def hasTooManyDigits (f : Field) : Content → Bool
  | .integer .. => maxDigits < f.precision.getD 0
  | _ => false

/-- What keeps a machine from writing a content, if anything does: only decimals have a limit. -/
def unwritable? (m : Machine) : Content → Option Exception
  | .integer 10 _ _ i => match m.decimalInt i with
    | .ok _ => none
    | .error e => some e
  | _ => none

/-- Why a content has no text in a field, if it has none. -/
def refusal? (m : Machine) (f : Field) (c : Content) : Option Fault :=
  if f.hasTooManyDigits c then some .tooManyDigits
  else match unwritable? m c with
    | some e => some (.raised e)
    | none => if 0 < f.width ∧ !m.holds f.width " " then some .memory else none

end Field

/-! ### Arguments in order -/

def next : List Value → Except Fault (Value × List Value)
  | [] => .error .tooFewArguments
  | v :: vs => .ok (v, vs)

/-- The integer of the next argument, within limits, and the arguments behind it. -/
def nextAmount (low high : Int) (outside : Fault) (args : List Value) :
    Except Fault (Int × List Value) := do
  let (v, args) ← next args
  match v.integer? with
  | none => .error .amountNotInteger
  | some i => if low ≤ i ∧ i ≤ high then .ok (i, args) else .error outside

/-- The width and the flags of a directive. A negative width puts the padding on the right. The
least width of all has no positive counterpart, and asks for no padding. -/
def width (d : Directive) (args : List Value) : Except Fault (Flags × Nat × List Value) :=
  match d.width with
  | none => .ok (d.flags, 0, args)
  | some (.given n) => .ok (d.flags, n, args)
  | some .argument => do
    let (i, args) ← nextAmount (-0x8000000000000000) 0x7FFFFFFFFFFFFFFF .widthOutOfRange args
    if 0 ≤ i then .ok (d.flags, i.toNat, args)
    else .ok ({ d.flags with left := true }, if i = -0x8000000000000000 then 0 else i.natAbs, args)

/-- The precision of a directive. A negative one counts as zero. -/
def precision (d : Directive) (args : List Value) : Except Fault (Option Nat × List Value) :=
  match d.precision with
  | none => .ok (none, args)
  | some (.given n) => .ok (some n, args)
  | some .argument => do
    let (i, args) ← nextAmount (-0x80000000) 0x7FFFFFFF .precisionOutOfRange args
    .ok (some i.toNat, args)

inductive Part where
  | literal (c : CodePoint)
  | field (f : Field) (c : Content)

def Part.text : Part → Text
  | .literal c => [c]
  | .field f c => f.render c

/-- The part that a content becomes in a field, if it has a text there. -/
def Field.part (m : Machine) (f : Field) (c : Content) : Except Fault Part :=
  match f.refusal? m c with
  | some fault => .error fault
  | none => .ok (.field f c)

/-- The field of a directive of a template, and the arguments that are left. An argument is taken
before its conversion is looked up. -/
def expand (m : Machine) (template : Text) (d : Directive) (args : List Value) :
    Except Fault (Part × List Value) := do
  let (flags, width, args) ← width d args
  let (precision, args) ← precision d args
  match d.ending with
  | .broken fault => .error fault
  | .conversion letter behind =>
    let (v, args) ← next args
    match Conversion.ofLetter? letter with
    | none => .error (.unknownConversion letter (template.length - behind.length - 1))
    | some conversion =>
      let content ← conversion.apply m letter v
      let field : Field := { flags, width, precision }
      .ok (← field.part m content, args)

/-- What the pieces of a template become, for arguments that it takes all. -/
def parts (m : Machine) (template : Text) : List Segment → List Value → Except Fault (List Part)
  | [], [] => .ok []
  | [], _ :: _ => .error .tooManyArguments
  | .literal c :: rest, args => (.literal c :: ·) <$> parts m template rest args
  | .directive d :: rest, args => do
    let (part, args) ← expand m template d args
    (part :: ·) <$> parts m template rest args

def fill (m : Machine) (template : Text) (args : List Value) : Except Fault Text :=
  if args.isEmpty then .ok template
  else do
    let parts ← parts m template (segments template) args
    .ok (parts.flatMap Part.text)

end CaretReport.Template
