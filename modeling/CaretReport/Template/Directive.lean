import CaretReport.Host.Exception

/-!
# Directives

A template is literal text with directives: a percent sign, flags, a field width, a precision and
the letter of a conversion. Two percent signs in a row stand for one. `Fault` lists what can be
wrong with a template, or with an argument where the template puts it.
-/

namespace CaretReport.Template

/-- Why a template cannot be filled. -/
inductive Fault where
  /-- A directive names its argument. -/
  | named
  /-- A directive is cut off by the end of the template. -/
  | incomplete
  | widthTooBig
  | precisionTooBig
  | tooFewArguments
  | tooManyArguments
  /-- A width or precision is taken from an argument that is no integer. -/
  | amountNotInteger
  | widthOutOfRange
  | precisionOutOfRange
  /-- No conversion has this letter; its place in the template is counted from zero. -/
  | unknownConversion (letter : CodePoint) (index : Nat)
  /-- A whole number was asked for, and the argument is no number. -/
  | notNumber (letter : CodePoint) (kind : Text)
  /-- A number in another base was asked for, and the argument is no integer. -/
  | notInteger (letter : CodePoint) (kind : Text)
  /-- A floating-point number was asked for, and the argument is no number. -/
  | notReal (kind : Text)
  /-- A whole number was asked for, and the argument has no value. -/
  | nanToInteger
  /-- A whole number was asked for, and the argument is infinite. -/
  | infinityToInteger
  | tooManyDigits
  | realOutOfRange
  /-- A character was asked for, and the argument is neither a character nor an integer. -/
  | notCharacter
  /-- A character was asked for by a number outside the code space. -/
  | characterOutOfRange
  | memory
  /-- A value raised an exception when it was asked for its text or its number. -/
  | raised (e : Exception)
  deriving DecidableEq

/-- Letters are shown only if they are ASCII. -/
def Fault.shown (letter : CodePoint) : Text :=
  if 31 ≤ letter.val ∧ letter.val ≤ 126 then [letter] else "?"

def Fault.exception : Fault → Exception
  | .named => .of .type "format requires a mapping"
  | .incomplete => .of .value "incomplete format"
  | .widthTooBig => .of .value "width too big"
  | .precisionTooBig => .of .value "precision too big"
  | .tooFewArguments => .of .type "not enough arguments for format string"
  | .tooManyArguments => .of .type "not all arguments converted during string formatting"
  | .amountNotInteger => .of .type "* wants int"
  | .widthOutOfRange => .of .overflow "Python int too large to convert to C ssize_t"
  | .precisionOutOfRange => .of .overflow "Python int too large to convert to C int"
  | .unknownConversion letter index =>
    .of .value ("unsupported format character '" ++ shown letter ++ "' (0x" ++
      Text.ofNatBase 16 letter.val ++ ") at index " ++ Text.ofNat index)
  | .notNumber letter kind =>
    .of .type ("%" ++ [letter] ++ " format: a real number is required, not " ++ kind)
  | .notInteger letter kind =>
    .of .type ("%" ++ [letter] ++ " format: an integer is required, not " ++ kind)
  | .notReal kind => .of .type ("must be real number, not " ++ kind)
  | .nanToInteger => .of .value "cannot convert float NaN to integer"
  | .infinityToInteger => .of .overflow "cannot convert float infinity to integer"
  | .tooManyDigits => .of .overflow "precision too large"
  | .realOutOfRange => .of .overflow "int too large to convert to float"
  | .notCharacter => .of .type "%c requires int or char"
  | .characterOutOfRange => .of .overflow "%c arg not in range(0x110000)"
  | .memory => .of .memory ""
  | .raised e => e

structure Flags where
  /-- Padding goes to the right of the field (`-`). -/
  left : Bool := false
  /-- Numbers that are not negative get a plus sign (`+`). -/
  plus : Bool := false
  /-- Numbers that are not negative get a space (` `). -/
  blank : Bool := false
  /-- Numbers are padded with zeros (`0`). -/
  zero : Bool := false
  /-- The alternate form of a conversion (`#`). -/
  alternate : Bool := false

def Flags.insert (f : Flags) (c : CodePoint) : Flags :=
  match c.toChar? with
  | some '-' => { f with left := true }
  | some '+' => { f with plus := true }
  | some ' ' => { f with blank := true }
  | some '0' => { f with zero := true }
  | some '#' => { f with alternate := true }
  | _ => f

def flagLetters : Text := "-+ 0#"

inductive Amount where
  /-- The number stands in the template. -/
  | given (n : Nat)
  /-- The number is the next argument. -/
  | argument

inductive Ending where
  /-- With the letter of a conversion, and the text behind it. -/
  | conversion (letter : CodePoint) (behind : Text)
  | broken (fault : Fault)

structure Directive where
  flags : Flags := {}
  width : Option Amount := none
  precision : Option Amount := none
  ending : Ending

def maxWidth : Nat := 0x7FFFFFFFFFFFFFFF

def maxPrecision : Nat := 0x7FFFFFFF

def isDigit (c : CodePoint) : Bool := 0x30 ≤ c.val && c.val ≤ 0x39

def number (digits : Text) : Nat := digits.foldl (fun n c => n * 10 + (c.val - 0x30)) 0

/-- The amount at the start of a text, and the text behind it. -/
def readAmount : Text → Option Amount × Text
  | [] => (none, [])
  | c :: rest =>
    if c = '*' then (some .argument, rest)
    else if isDigit c then
      (some (.given (number ((c :: rest).takeWhile isDigit))), rest.dropWhile isDigit)
    else (none, c :: rest)

/-- The precision at the start of a text, and the text behind it. A point alone means zero. -/
def readPrecision : Text → Option Amount × Text
  | [] => (none, [])
  | c :: rest =>
    if c = '.' then
      let (amount, rest) := readAmount rest
      (some (amount.getD (.given 0)), rest)
    else (none, c :: rest)

/-- A text without the length letter that it may start with. -/
def skipLength : Text → Text
  | [] => []
  | c :: rest => if c = 'h' ∨ c = 'l' ∨ c = 'L' then rest else c :: rest

def exceeds (limit : Nat) : Option Amount → Bool
  | some (.given n) => limit < n
  | _ => false

/-- The directive behind a percent sign, and the text behind the directive. Nothing is read behind a
broken directive. -/
def readDirective (t : Text) : Directive × Text :=
  let flags := (t.takeWhile flagLetters.contains).foldl Flags.insert {}
  let (width, rest) := readAmount (t.dropWhile flagLetters.contains)
  if exceeds maxWidth width then ({ flags, ending := .broken .widthTooBig }, [])
  else
    let (precision, rest) := readPrecision rest
    if exceeds maxPrecision precision then
      ({ flags, width, ending := .broken .precisionTooBig }, [])
    else match skipLength rest with
      | [] => ({ flags, width, precision, ending := .broken .incomplete }, [])
      | c :: rest => ({ flags, width, precision, ending := .conversion c rest }, rest)

theorem readAmount_length_le (t : Text) : (readAmount t).2.length ≤ t.length := by
  cases t with
  | nil => simp [readAmount]
  | cons c rest =>
    simp only [readAmount]
    split
    · simp
    · split
      · have := (List.dropWhile_sublist isDigit (l := rest)).length_le
        simp only [List.length_cons]
        omega
      · simp

theorem readPrecision_length_le (t : Text) : (readPrecision t).2.length ≤ t.length := by
  cases t with
  | nil => simp [readPrecision]
  | cons c rest =>
    simp only [readPrecision]
    split
    · have := readAmount_length_le rest
      simp only [List.length_cons]
      omega
    · simp

theorem skipLength_length_le (t : Text) : (skipLength t).length ≤ t.length := by
  cases t with
  | nil => simp [skipLength]
  | cons c rest =>
    simp only [skipLength]
    split <;> simp

theorem readDirective_length_le (t : Text) : (readDirective t).2.length ≤ t.length := by
  have hflags := (List.dropWhile_sublist flagLetters.contains (l := t)).length_le
  have hwidth := readAmount_length_le (t.dropWhile flagLetters.contains)
  have hprecision := readPrecision_length_le (readAmount (t.dropWhile flagLetters.contains)).2
  have hskip := skipLength_length_le
    (readPrecision (readAmount (t.dropWhile flagLetters.contains)).2).2
  simp only [readDirective]
  split
  · simp
  · split
    · simp
    · split
      · simp
      · next h =>
        rw [h] at hskip
        simp only [List.length_cons] at hskip
        simp only
        omega

inductive Segment where
  | literal (c : CodePoint)
  | directive (d : Directive)

def segments : Text → List Segment
  | [] => []
  | c :: rest =>
    if c ≠ '%' then .literal c :: segments rest
    else match rest with
      | [] => [.directive { ending := .broken .incomplete }]
      | d :: more =>
        if d = '%' then .literal '%' :: segments more
        else if d = '(' then [.directive { ending := .broken .named }]
        else
          let read := readDirective (d :: more)
          .directive read.1 :: segments read.2
termination_by t => t.length
decreasing_by
  · simp only [List.length_cons]
    omega
  · simp only [List.length_cons]
    omega
  · have := readDirective_length_le (d :: more)
    simp only [List.length_cons] at this ⊢
    omega

end CaretReport.Template
