import CaretReport.Session.Step

/-!
# Running a session

Painters can be switched after reporters were built with them, and such a reporter then uses the
switched painter. So painters live in a store of their own: names and reporters hold places in it,
and giving a name to a new painter leaves older reporters with the one they have. A step that fails
changes nothing.
-/

namespace CaretReport.Session

/-- A reporter whose painter is a place in the store. -/
structure SharedReporter where
  painter : Option Nat
  width : Option Width
  glyphs : Glyphs

inductive Cursor where
  | lines (rest : List Bytes)
  | runes (rest : List Utf8.Rune)
  /-- Reading fails once, and is over then. -/
  | failing (e : Exception)

structure State where
  environment : Environment := {}
  /-- The painters, by place. -/
  store : List Painter := []
  painters : Named Nat := {}
  streams : Named Stream := {}
  reporters : Named SharedReporter := {}
  diagnostics : Named Diagnostic := {}
  cursors : Named Cursor := {}

/-- What a name stands for, or the exception of not knowing it. -/
def known {α : Type} (things : Named α) (name : Text) : Except Exception α :=
  match things.get? name with
  | some thing => .ok thing
  | none => .error (.of .key name.quoted)

/-- What is raised when a field of a diagnostic is to be changed. -/
def frozen (field : Text) : Exception :=
  .of .frozenInstance ("cannot assign to field " ++ field.quoted)

namespace State

def painterAt (s : State) (place : Nat) : Painter := s.store.getD place {}

def painter (s : State) (name : Text) : Except Exception Painter := do
  pure (s.painterAt (← known s.painters name))

/-- The reporter of a name, with its painter as it is now. -/
def reporter (s : State) (name : Text) : Except Exception Reporter := do
  let r ← known s.reporters name
  pure { painter := r.painter.map s.painterAt, width := r.width, glyphs := r.glyphs }

def addPainter (s : State) (name : Text) (painter : Painter) : State :=
  { s with store := s.store ++ [painter], painters := s.painters.insert name s.store.length }

def addDiagnostic (s : State) (name : Text) (d : Diagnostic) : Answer × State :=
  (.diagnostic d, { s with diagnostics := s.diagnostics.insert name d })

/-- Keeps what an action made of the stream of a name. -/
def finish (s : State) (name : Text) (before : Stream) (o : Outcome) : Answer × State :=
  (.written before o, { s with streams := s.streams.insert name o.stream })

end State

def bytesOf (b : Buffer) : Except Exception Bytes := b.encode.mapError Unencodable.exception

/-- The next piece that a cursor gives, and the cursor behind it. -/
def Cursor.next : Cursor → Answer × Cursor
  | .lines (line :: rest) => (.line line, .lines rest)
  | .runes (r :: rest) => (.rune r, .runes rest)
  | .failing e => (.failed e, .lines [])
  | c => (.finished, c)

variable (host : Host)

/-- The answer to a step, and the state behind it. -/
def act (s : State) : Step → Except Exception (Answer × State)
  | .environment changes =>
    .ok (.done, { s with
      environment := changes.foldl (fun e c => e.update c.1 c.2) s.environment })
  | .stream id stream => .ok (.done, { s with streams := s.streams.insert id stream })
  | .close id => do
    let stream ← known s.streams id
    pure (.done, { s with streams := s.streams.insert id stream.close })
  | .output id => do pure (.text (← known s.streams id).content, s)
  | .painter id enabled => .ok (.painter { enabled }, s.addPainter id { enabled })
  | .painterFor id stream explicit => do
    let stream ← known s.streams stream
    let painter ← Painter.ofStream s.environment stream explicit
    pure (.painter painter, s.addPainter id painter)
  | .setEnabled name enabled => do
    let place ← known s.painters name
    pure (.painter { enabled }, { s with store := s.store.set place { enabled } })
  | .paint name role text => do
    let painter ← s.painter name
    pure (.text (painter.paint host.colored s.environment role text), s)
  | .write name id piece => do
    let painter ← s.painter name
    let stream ← known s.streams id
    pure (s.finish id stream (painter.write host.colored s.environment piece stream))
  | .reporter id name width glyphs => do
    let painter ← name.mapM (known s.painters)
    pure (.done, { s with reporters := s.reporters.insert id { painter, width, glyphs } })
  | .setGlyphs id glyphs => do
    let r ← known s.reporters id
    pure (.done, { s with reporters := s.reporters.insert id { r with glyphs } })
  | .painterOf name stream => do
    let r ← s.reporter name
    let stream ← known s.streams stream
    pure (.painter (← r.painterOn s.environment stream), s)
  | .marker name line column => do
    let r ← s.reporter name
    let line ← bytesOf line
    pure (.text (← (r.marker host line column).mapError Marker.Fault.exception), s)
  | .diagnostic id route line column => do
    pure (s.addDiagnostic id (← route.make host.machine line column))
  | .diagnosticIn id name path => do
    let d ← known s.diagnostics name
    pure (s.addDiagnostic id (← d.inFile host.machine path))
  | .assign name field => do
    let _ ← known s.diagnostics name
    .error (frozen field)
  | .equal a b => do
    let d ← known s.diagnostics a
    let e ← known s.diagnostics b
    pure (.equal (d = e), s)
  | .show name => do pure (.diagnostic (← known s.diagnostics name), s)
  | .raise name => do
    let d ← known s.diagnostics name
    pure (.raised (← Raised.of host.machine d), s)
  | .report name diagnostic source id => do
    let r ← s.reporter name
    let d ← known s.diagnostics diagnostic
    let stream ← known s.streams id
    pure (s.finish id stream (r.write host s.environment d source stream))
  | .reportDefault diagnostic source name id => do
    let d ← known s.diagnostics diagnostic
    let painter ← name.mapM s.painter
    let stream ← known s.streams id
    pure (s.finish id stream (({ painter } : Reporter).write host s.environment d source stream))
  | .lines id source => do
    let source ← bytesOf source
    pure (.done, { s with cursors := s.cursors.insert id (.lines (Source.lines source)) })
  | .runes id data start => do
    let data ← bytesOf data
    let cursor := match Utf8.runesFrom data start with
      | .ok rs => Cursor.runes rs
      | .error f => .failing f.exception
    pure (.done, { s with cursors := s.cursors.insert id cursor })
  | .next id => do
    let (answer, cursor) := (← known s.cursors id).next
    pure (answer, { s with cursors := s.cursors.insert id cursor })

def step (s : State) (st : Step) : Answer × State :=
  match act host s st with
  | .ok r => r
  | .error e => (.failed e, s)

def run (s : State) : List Step → List Answer
  | [] => []
  | st :: sts =>
    let (answer, s) := step host s st
    answer :: run s sts

end CaretReport.Session
