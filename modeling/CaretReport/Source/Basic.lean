import CaretReport.Cells.Basic

/-!
# Lines of a source, and the marker under a line

A line ends at a line feed, and one carriage return in front of the end belongs to the end. A
terminator at the very end of the source opens no further line.

The marker stands under a byte offset of a line: spaces for the cells before it, the caret, and one
filler for every further cell of the token that starts there. A token ends at the first blank. The
texts of a marker are put together one after the other, and each can be too long for the machine.
-/

namespace CaretReport

namespace Source

def lineFeed : UInt8 := 0x0A

def carriageReturn : UInt8 := 0x0D

/-- The stretches between line feeds; an empty last stretch is left out. -/
def stretches : Bytes → List Bytes
  | [] => []
  | b :: rest =>
    if b = lineFeed then [] :: stretches rest
    else match stretches rest with
      | [] => [[b]]
      | s :: ss => (b :: s) :: ss

/-- The line without one carriage return at its end. -/
def dropReturn (line : Bytes) : Bytes :=
  if line.getLast? = some carriageReturn then line.dropLast else line

def lines (source : Bytes) : List Bytes := (stretches source).map dropReturn

/-- Line `n`, counted from one. -/
def line? (source : Bytes) (n : Int) : Option Bytes :=
  if 1 ≤ n then (lines source)[n.toNat - 1]? else none

end Source

/-- What a marker is drawn with. -/
structure Glyphs where
  caret : Text := "^"
  filler : Text := "~"

namespace Marker

/-- The code points that end a token. -/
def blanks : List CodePoint := [' ', '\t', '\r', '\n']

def isBlank (r : Utf8.Rune) : Bool :=
  match r.point with
  | none => false
  | some c => blanks.contains c

/-- The runes of the token that `rs` starts with. -/
def token (rs : List Utf8.Rune) : List Utf8.Rune := rs.takeWhile fun r => !isBlank r

/-- How often the filler stands behind the caret, which takes the first cell of a token of `cells`
cells. -/
def fillers (cells : Int) : Int := if 0 < cells then cells - 1 else cells

/-- The marker behind `gap` cells, of a token of `cells` cells. -/
def draw (m : Machine) (glyphs : Glyphs) (gap cells : Int) : Except Text.Fault Text := do
  let before ← m.repeated gap " "
  let front ← m.append before glyphs.caret
  let rest ← m.repeated (fillers cells) glyphs.filler
  m.append front rest

/-- The marker under byte offset `start` of `line`. -/
def atOffset (m : Machine) (width : Width) (glyphs : Glyphs) (line : Bytes) (start : Nat) :
    Except Text.Fault Text :=
  draw m glyphs (Cells.ofBytes width (line.take start))
    (Cells.ofRunes width (token (Utf8.runes (line.drop start))))

inductive Fault where
  | offset (f : Utf8.OffsetFault)
  | text (f : Text.Fault)
  deriving DecidableEq

def Fault.exception : Fault → Exception
  | .offset f => f.exception
  | .text f => f.exception

/-- The marker under column `column` of `line`, counted in bytes from one. Columns below one count
from the end of the line. -/
def atColumn (m : Machine) (width : Width) (glyphs : Glyphs) (line : Bytes) (column : Int) :
    Except Fault Text :=
  match Utf8.runesFrom line (column - 1) with
  | .error f => .error (.offset f)
  | .ok rs =>
    (draw m glyphs (Cells.ofBytes width (Utf8.upTo line (column - 1)))
      (Cells.ofRunes width (token rs))).mapError .text

theorem atColumn_add_one (m : Machine) (width : Width) (glyphs : Glyphs) (line : Bytes)
    (start : Nat) :
    atColumn m width glyphs line ((start : Int) + 1) =
      (atOffset m width glyphs line start).mapError .text := by
  rw [atColumn, Int.add_sub_cancel]
  rfl

end Marker

end CaretReport
