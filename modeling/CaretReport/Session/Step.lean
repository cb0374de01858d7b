import CaretReport.Report.Reporter

/-!
# Steps of a session and their answers

A session works on named streams, painters, reporters, diagnostics and cursors. Giving a name again
hides what it stood for.
-/

namespace CaretReport

/-- Things by name, the latest first. -/
structure Named (α : Type) where
  entries : List (Text × α) := []

namespace Named

variable {α : Type}

def get? (n : Named α) (name : Text) : Option α :=
  (n.entries.find? fun e => e.1 = name).map Prod.snd

def insert (n : Named α) (name : Text) (thing : α) : Named α := ⟨(name, thing) :: n.entries⟩

theorem get?_insert_self (n : Named α) (name : Text) (thing : α) :
    (n.insert name thing).get? name = some thing := by
  simp [get?, insert]

theorem get?_insert_of_ne (n : Named α) {name other : Text} (thing : α) (h : name ≠ other) :
    (n.insert name thing).get? other = n.get? other := by
  simp [get?, insert, h]

theorem mem_of_get? {n : Named α} {name : Text} {thing : α} (h : n.get? name = some thing) :
    (name, thing) ∈ n.entries := by
  obtain ⟨⟨other, thing⟩, hfind, rfl⟩ := Option.map_eq_some_iff.1 h
  have hmem := List.mem_of_find?_eq_some hfind
  have hname := List.find?_some hfind
  simp only [decide_eq_true_eq] at hname
  rwa [hname] at hmem

end Named

namespace Session

inductive Step where
  /-- Sets environment variables, or unsets those without a value. -/
  | environment (changes : List (Text × Option Text))
  | stream (id : Text) (stream : Stream)
  | close (stream : Text)
  | output (stream : Text)
  | painter (id : Text) (enabled : Bool)
  | painterFor (id stream : Text) (explicit : Option Bool)
  | setEnabled (painter : Text) (enabled : Bool)
  | paint (painter : Text) (role : Role) (text : Text)
  | write (painter stream : Text) (piece : Piece)
  | reporter (id : Text) (painter : Option Text) (width : Option Width) (glyphs : Glyphs)
  | setGlyphs (reporter : Text) (glyphs : Glyphs)
  /-- Asks for the painter that a reporter uses for a stream. -/
  | painterOf (reporter stream : Text)
  | marker (reporter : Text) (line : Buffer) (column : Int)
  | diagnostic (id : Text) (route : Diagnostic.Route) (line column : Value)
  | diagnosticIn (id diagnostic path : Text)
  | assign (diagnostic field : Text)
  | equal (a b : Text)
  | show (diagnostic : Text)
  | raise (diagnostic : Text)
  | report (reporter diagnostic : Text) (source : Option Buffer) (stream : Text)
  | reportDefault (diagnostic : Text) (source : Option Buffer) (painter : Option Text)
      (stream : Text)
  | lines (id : Text) (source : Buffer)
  | runes (id : Text) (data : Buffer) (start : Int)
  | next (cursor : Text)

inductive Answer where
  | done
  | text (t : Text)
  | painter (p : Painter)
  /-- An action on a stream: the stream before it, and the outcome. -/
  | written (before : Stream) (outcome : Outcome)
  | diagnostic (d : Diagnostic)
  | equal (b : Bool)
  | raised (e : Raised)
  | line (line : Bytes)
  | rune (r : Utf8.Rune)
  | finished
  | failed (e : Exception)

end Session

end CaretReport
