import CaretReport.Report.Basic

/-!
# Writing reports

A reporter writes the pieces of a report to a stream, one write for each. A write that fails ends
the report, and so does an exception of its own; tolerated ones are logged, all others are passed
on. A report logs at most once. The log names the diagnostic by its text: if it has none, the
exception of that is passed on instead.
-/

namespace CaretReport

/-- What reports are made with: the machine and two libraries. -/
structure Host where
  machine : Machine
  /-- The cells of a rune; less than none for control characters. -/
  wcwidth : Width
  colored : Colouring

/-- A usual machine with the libraries that are commonly installed. -/
def Host.usual : Host := ⟨.usual, Cells.tabled, .ansi⟩

/-! ### Outcomes -/

/-- What an action on a stream can raise. -/
inductive ActionFault where
  | stream (e : Exception)
  | own (e : Exception)
  deriving DecidableEq

def ActionFault.exception : ActionFault → Exception
  | .stream e => e
  | .own e => e

structure Outcome where
  result : Except ActionFault Unit
  stream : Stream
  logs : List LogRecord := []

namespace Outcome

/-- The text that an action added to the stream it was given. -/
def added (o : Outcome) (before : Stream) : Text :=
  (o.stream.written.drop before.written.length).flatten

/-- How many writes an action tried on the stream it was given. -/
def attempts (o : Outcome) (before : Stream) : Nat := o.stream.attempts - before.attempts

end Outcome

def Painter.write (colored : Colouring) (env : Environment) (p : Painter) (piece : Piece)
    (stream : Stream) : Outcome :=
  let (result, stream) := stream.write (piece.render colored env p)
  { result := result.mapError .stream, stream }

/-! ### Reporters -/

/-- How reports are written: the painter, or none if each stream decides, the width of code points,
or none for the display width, and the glyphs of the marker. -/
structure Reporter where
  painter : Option Painter := none
  width : Option Width := none
  glyphs : Glyphs := {}

namespace Reporter

def painterOn (r : Reporter) (env : Environment) (stream : Stream) : Except Exception Painter :=
  match r.painter with
  | some p => .ok p
  | none => Painter.ofStream env stream none

def widthOn (r : Reporter) (host : Host) : Width := r.width.getD (Cells.display host.wcwidth)

def marker (r : Reporter) (host : Host) (line : Bytes) (column : Int) : Except Marker.Fault Text :=
  Marker.atColumn host.machine (r.widthOn host) r.glyphs line column

def script (r : Reporter) (host : Host) (d : Diagnostic) (source : Option Buffer) :
    Script (List LogRecord) :=
  Report.script host.machine (r.widthOn host) r.glyphs d source

/-- What is logged about a report that could not be written. -/
def failureLog (m : Machine) (d : Diagnostic) (reason : Text) : Except Exception LogRecord := do
  let text ← d.toText m
  pure ⟨.warning, "failed to write diagnostic " ++ text ++ ": " ++ reason⟩

/-- The end of a report after an exception. -/
def fail (m : Machine) (d : Diagnostic) (f : ActionFault) (stream : Stream) : Outcome :=
  if f.exception.isTolerated then
    match failureLog m d f.exception.message with
    | .ok record => ⟨.ok (), stream, [record]⟩
    | .error e => ⟨.error (.own e), stream, []⟩
  else ⟨.error f, stream, []⟩

/-- The end of a report whose pieces are all written. -/
def conclude (m : Machine) (d : Diagnostic) (stream : Stream) :
    Except Exception (List LogRecord) → Outcome
  | .ok logs => ⟨.ok (), stream, logs⟩
  | .error e => fail m d (.own e) stream

/-- Writes the pieces of a script, and ends as it says. -/
def perform (m : Machine) (d : Diagnostic) (render : Piece → Text) (sc : Script (List LogRecord))
    (stream : Stream) : Outcome :=
  match stream.writeAll (sc.pieces.map render) with
  | (.error e, stream) => fail m d (.stream e) stream
  | (.ok (), stream) => conclude m d stream sc.result

def write (r : Reporter) (host : Host) (env : Environment) (d : Diagnostic)
    (source : Option Buffer) (stream : Stream) : Outcome :=
  match r.painterOn env stream with
  | .error e => fail host.machine d (.stream e) stream
  | .ok p => perform host.machine d (Piece.render host.colored env p)
      (r.script host d source) stream

end Reporter

end CaretReport
