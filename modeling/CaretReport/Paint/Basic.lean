import CaretReport.Stream.Basic

/-!
# Painting

Text is painted by what it is for, not by colour. A painter is a switch: it paints texts, or leaves
them as they are. Whether to paint is decided by an explicit choice first, then by the environment,
and last by whether the stream is a terminal.

How painted text looks is up to a library (`Colouring`). The library looks at the environment by
itself, and at the standard output in it, unless it is forced; and it is always forced: the decision
is already made, for the stream that is written to. `Colouring.ansi` is the library that is commonly
installed: it puts a text between an escape sequence for each of the looks and one that switches
them off.
-/

namespace CaretReport

/-! ### Environments -/

/-- What a process finds around it. -/
structure Environment where
  /-- The environment variables that are set, with their values. -/
  entries : List (Text × Text) := []
  /-- What the standard output answers when asked whether it is a terminal. -/
  output : Terminal := .no

namespace Environment

/-- Whether a variable is set, be it to nothing. -/
def isSet (e : Environment) (name : Text) : Bool := e.entries.any fun v => v.1 = name

/-- The environment with one variable set, or not set any more. -/
def update (e : Environment) (name : Text) (value : Option Text) : Environment :=
  { e with
    entries := e.entries.filter (fun v => v.1 ≠ name) ++ value.toList.map fun v => (name, v) }

end Environment

/-! ### Roles -/

inductive Colour where
  | yellow
  | green
  | darkGrey
  deriving DecidableEq

def Colour.name : Colour → Text
  | .yellow => "yellow"
  | .green => "green"
  | .darkGrey => "dark_grey"

inductive Attribute where
  | bold
  deriving DecidableEq

def Attribute.name : Attribute → Text
  | .bold => "bold"

/-- What a text is for. -/
inductive Role where
  | path
  | emphasis
  | warning
  | success
  | muted
  deriving DecidableEq

namespace Role

def all : List Role := [.path, .emphasis, .warning, .success, .muted]

def name : Role → Text
  | .path => "path"
  | .emphasis => "emphasis"
  | .warning => "warning"
  | .success => "success"
  | .muted => "muted"

/-- The colour of a role; none keeps the colour of the terminal. -/
def colour? : Role → Option Colour
  | .path => some .yellow
  | .emphasis => none
  | .warning => some .yellow
  | .success => some .green
  | .muted => some .darkGrey

def attributes : Role → List Attribute
  | .emphasis => [.bold]
  | _ => []

end Role

/-! ### Colouring -/

/-- What a colouring library makes of a text: in an environment, forced to colour or not, in a
colour and with attributes. -/
abbrev Colouring := Environment → Bool → Option Colour → Option (List Attribute) → Text → Text

namespace Colouring

def escape : CodePoint := ⟨0x1B, by decide⟩

/-- The escape sequence that sets one of the looks of a terminal. -/
def escapeSequence (code : Nat) : Text := [escape] ++ "[" ++ Text.ofNat code ++ "m"

def colourCode : Colour → Nat
  | .yellow => 33
  | .green => 32
  | .darkGrey => 90

def attributeCode : Attribute → Nat
  | .bold => 1

/-- Whether the library colours texts in an environment, if it is not forced to. -/
def isAllowed (env : Environment) : Bool :=
  let given (name : Text) : Bool := env.entries.any fun v => v.1 = name && !v.2.isEmpty
  if given "ANSI_COLORS_DISABLED" || given "NO_COLOR" then false
  else if given "FORCE_COLOR" then true
  else env.output = .yes && !env.entries.contains ("TERM", "dumb")

def ansi : Colouring := fun env forced colour attributes t =>
  if forced || isAllowed env then
    let codes := (attributes.getD []).reverse.map attributeCode ++ colour.toList.map colourCode
    codes.flatMap escapeSequence ++ t ++ escapeSequence 0
  else t

end Colouring

/-! ### Painters -/

/-- Paints texts, or leaves them as they are. -/
structure Painter where
  enabled : Bool := true
  deriving DecidableEq

namespace Painter

/-- A text in a role. Nothing is painted if there is no text. -/
def paint (colored : Colouring) (env : Environment) (p : Painter) (role : Role) (t : Text) : Text :=
  if !p.enabled || t.isEmpty then t
  else colored env true role.colour?
    (if role.attributes.isEmpty then none else some role.attributes) t

def toText (p : Painter) : Text :=
  "Styler(enabled=" ++ (if p.enabled then "True" else "False") ++ ")"

/-- Whether text for a stream is painted. A stream that cannot answer is no terminal, unless its
trouble is not to be tolerated. -/
def isWanted (env : Environment) (stream : Stream) (explicit : Option Bool) :
    Except Exception Bool :=
  match explicit with
  | some b => .ok b
  | none =>
    if env.isSet "NO_COLOR" then .ok false
    else if env.isSet "FORCE_COLOR" then .ok true
    else match stream.isTerminal with
      | .ok b => .ok b
      | .error e => if e.isTolerated then .ok false else .error e

def ofStream (env : Environment) (stream : Stream) (explicit : Option Bool) :
    Except Exception Painter :=
  (isWanted env stream explicit).map fun enabled => { enabled }

end Painter

/-- A text, with the role it is painted in if it has one. -/
structure Piece where
  role : Option Role
  text : Text

namespace Piece

def plain (t : Text) : Piece := ⟨none, t⟩

def painted (r : Role) (t : Text) : Piece := ⟨some r, t⟩

def render (colored : Colouring) (env : Environment) (p : Painter) (piece : Piece) : Text :=
  match piece.role with
  | none => piece.text
  | some role => p.paint colored env role piece.text

theorem render_disabled (colored : Colouring) (env : Environment) (piece : Piece) :
    piece.render colored env { enabled := false } = piece.text := by
  cases piece with
  | mk role text => cases role <;> rfl

end Piece

end CaretReport
