import CaretReport.Diagnostic.Basic
import CaretReport.Paint.Basic
import CaretReport.Source.Basic

/-!
# The script of a report

A report has a header and, if the source holds the position, a snippet: the source line, and a
marker under it. It is written piece by piece, and an exception that is raised between two pieces
ends it there. A script is the row of pieces, with what comes of it when they are written.
-/

namespace CaretReport

/-! ### Log records -/

inductive LogLevel where
  | debug
  | warning
  deriving DecidableEq

structure LogRecord where
  level : LogLevel
  text : Text
  deriving DecidableEq

/-! ### Scripts -/

/-- The pieces that are written one after the other, and what is raised or returned behind them. -/
structure Script (α : Type) where
  pieces : List Piece
  result : Except Exception α

namespace Script

variable {α β : Type}

def write (piece : Piece) : Script Unit := ⟨[piece], .ok ()⟩

/-- What is worked out between two pieces. -/
def compute (x : Except Exception α) : Script α := ⟨[], x⟩

/-- An exception ends a script; behind a value it goes on. -/
def andThen (sc : Script α) (next : α → Script β) : Script β :=
  match sc.result with
  | .ok a => ⟨sc.pieces ++ (next a).pieces, (next a).result⟩
  | .error e => ⟨sc.pieces, .error e⟩

instance : Monad Script where
  pure a := ⟨[], .ok a⟩
  bind := andThen

end Script

namespace Report

/-- The header of a report: the text of the diagnostic, and a line feed. -/
def header (m : Machine) (d : Diagnostic) : Script Unit := do
  .write (.painted .path d.path)
  .write (.painted .muted ":")
  let line ← .compute (m.decimal d.position.line)
  .write (.plain line)
  .write (.painted .muted ":")
  let column ← .compute (m.decimal d.position.column)
  .write (.plain column)
  .write (.painted .muted ": ")
  .write (.painted .emphasis d.message)
  .write (.painted .muted (" [" ++ d.kind ++ "]\n"))

def marker (m : Machine) (width : Width) (glyphs : Glyphs) (p : Position) (line : Bytes) :
    Except Text.Fault Text :=
  Marker.atOffset m width glyphs line (p.column - 1)

/-- The snippet for a position in a line: the line behind its number, and below it the marker behind
a gutter of the same width. -/
def snippet (m : Machine) (width : Width) (glyphs : Glyphs) (p : Position) (line : Bytes) :
    Script Unit := do
  let number ← .compute (m.decimal p.line)
  .write (.painted .muted (number ++ "| "))
  .write (.plain (Utf8.decode line ++ "\n"))
  .write (.painted .muted (Text.spaces number.length ++ "| "))
  let marker ← .compute ((marker m width glyphs p line).mapError Text.Fault.exception)
  .write (.painted .success marker)
  .write (.plain "\n")

/-- Why a source has nothing to show at a position. -/
inductive Omission where
  | noLine
  /-- The line is shorter; it has `length` bytes. -/
  | shortLine (length : Nat)
  deriving DecidableEq

/-- What is logged about a snippet that is left out. -/
def Omission.log (m : Machine) (d : Diagnostic) (o : Omission) : Except Exception LogRecord := do
  let text ← d.toText m
  let line ← m.decimal d.position.line
  pure ⟨.debug, "no snippet for " ++ text ++ ": " ++ match o with
    | .noLine => "source has fewer than " ++ line ++ " lines"
    | .shortLine n => "line " ++ line ++ " is only " ++ Text.ofNat n ++ " bytes long"⟩

/-- The line that a position points into, the end of the line included. -/
def lineAt (p : Position) (source : Bytes) : Except Omission Bytes :=
  match Source.line? source p.line with
  | none => .error .noLine
  | some line =>
    if line.length < p.column - 1 then .error (.shortLine line.length) else .ok line

inductive Excerpt where
  | absent
  | unencodable (e : Unencodable)
  | omitted (o : Omission)
  /-- The snippet of a line is shown, as far as the marker can be drawn. -/
  | shown (line : Bytes)

def excerpt (d : Diagnostic) (source : Option Buffer) : Excerpt :=
  match source with
  | none => .absent
  | some buffer =>
    if buffer.isEmpty then .absent
    else match buffer.encode with
      | .error e => .unencodable e
      | .ok bytes => match lineAt d.position bytes with
        | .error o => .omitted o
        | .ok line => .shown line

def script (m : Machine) (width : Width) (glyphs : Glyphs) (d : Diagnostic)
    (source : Option Buffer) : Script (List LogRecord) := do
  header m d
  match excerpt d source with
  | .absent => pure []
  | .unencodable e => .compute (.error e.exception)
  | .omitted o =>
    let record ← .compute (o.log m d)
    pure [record]
  | .shown line =>
    snippet m width glyphs d.position line
    pure []

end Report

end CaretReport
