import CaretReport.Template.Fill

/-!
# Positions and diagnostics

A position is a line and a column of a source, both counted from one. Positions are made from
values, and only integers from one on are accepted: truth values are no integers here. What is
refused is written in the refusal, so a value that cannot be written is refused with the exception
that writing it raises.

A diagnostic is one problem that was found: a message of some kind, about a position of a file. It
never changes; a diagnostic for another file is a copy, which is put together from the fields anew.
Its text is one line, unless its fields hold line feeds.
-/

namespace CaretReport

structure Position where
  line : Nat
  column : Nat
  line_pos : 0 < line
  column_pos : 0 < column
  deriving DecidableEq

namespace Position

def positive? (i : Int) : Option { n : Nat // 0 < n } :=
  if h : 0 < i.toNat then some ⟨i.toNat, h⟩ else none

/-- The number from one on that a value is, if it is one. -/
def ordinal? : Value → Option { n : Nat // 0 < n }
  | .int i => positive? i
  | .object o => o.integer? >>= positive?
  | _ => none

/-- What is raised for a value in the place of a number of this name. -/
def refusal (m : Machine) (name : Text) (got : Value) : Exception :=
  match got.literal m with
  | .ok literal => .of .value (name ++ " must be an integer >= 1, got " ++ literal)
  | .error e => e

/-- The position of two values. The line is looked at first. -/
def ofValues (m : Machine) (line column : Value) : Except Exception Position :=
  match ordinal? line, ordinal? column with
  | none, _ => .error (refusal m "line" line)
  | some _, none => .error (refusal m "column" column)
  | some l, some c => .ok ⟨l, c, l.2, c.2⟩

def values (p : Position) : Value × Value := (.int p.line, .int p.column)

def toText (m : Machine) (p : Position) : Except Exception Text := do
  let line ← m.decimal p.line
  let column ← m.decimal p.column
  pure (line ++ ":" ++ column)

end Position

structure Diagnostic where
  message : Text
  path : Text
  position : Position
  kind : Text
  deriving DecidableEq

namespace Diagnostic

/-- Path, line, column, message and kind in one line. -/
def toText (m : Machine) (d : Diagnostic) : Except Exception Text := do
  let line ← m.decimal d.position.line
  let column ← m.decimal d.position.column
  pure (d.path ++ ":" ++ line ++ ":" ++ column ++ ": " ++ d.message ++ " [" ++ d.kind ++ "]")

def ofFields (m : Machine) (message path : Text) (line column : Value) (kind : Text) :
    Except Exception Diagnostic := do
  let position ← Position.ofValues m line column
  pure { message, path, position, kind }

/-- The position of a diagnostic, made of its numbers anew. -/
def positionAgain (m : Machine) (d : Diagnostic) : Except Exception Position :=
  Position.ofValues m d.position.values.1 d.position.values.2

/-- A diagnostic at a position, of no file yet. -/
def atPosition (m : Machine) (position : Position) (kind message : Text) :
    Except Exception Diagnostic :=
  ofFields m message [] position.values.1 position.values.2 kind

/-- A diagnostic at a position, of no file yet, with a template for its message. -/
def ofTemplate (m : Machine) (position : Position) (kind template : Text) (args : List Value) :
    Except Exception Diagnostic := do
  let message ← (Template.fill m template args).mapError Template.Fault.exception
  atPosition m position kind message

def inFile (m : Machine) (d : Diagnostic) (path : Text) : Except Exception Diagnostic :=
  ofFields m d.message path d.position.values.1 d.position.values.2 d.kind

/-- A way from two values to a diagnostic, with all that it takes besides them: the other fields at
once, or, for a position, a message or a template for it. -/
inductive Route where
  | direct (message path kind : Text)
  | literal (kind message : Text)
  | filled (kind template : Text) (args : List Value)

def Route.make (m : Machine) (line column : Value) : Route → Except Exception Diagnostic
  | direct message path kind => ofFields m message path line column kind
  | literal kind message => do
    let position ← Position.ofValues m line column
    atPosition m position kind message
  | filled kind template args => do
    let position ← Position.ofValues m line column
    ofTemplate m position kind template args

end Diagnostic

structure Raised where
  diagnostic : Diagnostic
  message : Text

/-- The text of an error is the text of its diagnostic. -/
def Raised.of (m : Machine) (d : Diagnostic) : Except Exception Raised :=
  (fun message => ⟨d, message⟩) <$> d.toText m

end CaretReport
