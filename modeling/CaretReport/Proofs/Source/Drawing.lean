import CaretReport.Proofs.Cells.Width
import CaretReport.Proofs.Host.Machine

/-!
# Drawing the marker of a code point

A marker is drawn exactly if the machine can carry out the four steps that put it together: the
spaces, the caret behind them, the fillers, and both in a row (`draw_eq_ok_iff`). Under a place
between two runes of a line, it is drawn from the decoded line alone: `atOffset_span`.
-/

namespace CaretReport.Marker

open Utf8 Cells

/-- The marker behind `gap` cells, of a token of `cells` cells. -/
def mark (glyphs : Glyphs) (gap cells : Int) : Text :=
  Text.spaces gap.toNat ++ glyphs.caret ++ Text.times (cells - 1).toNat glyphs.filler

/-- The machine can carry out each step that puts a marker together. -/
structure Draws (m : Machine) (glyphs : Glyphs) (gap cells : Int) : Prop where
  spaces : m.Repeatable gap " "
  front : m.Joinable (Text.spaces gap.toNat) glyphs.caret
  fillers : m.Repeatable (fillers cells) glyphs.filler
  whole : m.Joinable (Text.spaces gap.toNat ++ glyphs.caret)
    (Text.times (cells - 1).toNat glyphs.filler)

/-- The code points of a text from number `i` on, up to the first blank. -/
def run (t : Text) (i : Nat) : Text := (t.drop i).takeWhile fun c => !blanks.contains c

/-- What stands in front of the caret under code point `i` of a text. -/
def gap (width : Width) (t : Text) (i : Nat) : Text := Text.spaces (ofText width (t.take i)).toNat

/-- The marker under code point `i` of a text. -/
def under (width : Width) (glyphs : Glyphs) (t : Text) (i : Nat) : Text :=
  mark glyphs (ofText width (t.take i)) (ofText width (run t i))

/-- The machine can draw the marker under code point `i` of a text. -/
def Drawable (m : Machine) (width : Width) (glyphs : Glyphs) (t : Text) (i : Nat) : Prop :=
  Draws m glyphs (ofText width (t.take i)) (ofText width (run t i))

variable {m : Machine} {width : Width} {glyphs : Glyphs} {line : Bytes} {i start : Nat}
  {gap cells : Int} {t : Text}

/-! ### Step by step -/

theorem toNat_fillers (cells : Int) : (fillers cells).toNat = (cells - 1).toNat := by
  unfold fillers; split <;> omega

theorem draw_of_draws (h : Draws m glyphs gap cells) :
    draw m glyphs gap cells = .ok (mark glyphs gap cells) := by
  have hspaces := Machine.repeated_of_repeatable h.spaces
  have hfillers := Machine.repeated_of_repeatable h.fillers
  rw [Text.times_space] at hspaces
  rw [toNat_fillers] at hfillers
  simp only [draw, hspaces, Machine.append_of_joinable h.front, hfillers,
    Machine.append_of_joinable h.whole, bind, Except.bind, mark]

theorem draw_eq_ok_iff :
    draw m glyphs gap cells = .ok t ↔ Draws m glyphs gap cells ∧ t = mark glyphs gap cells := by
  refine ⟨fun hok => ?_, fun ⟨h, ht⟩ => by rw [draw_of_draws h, ht]⟩
  have h : Draws m glyphs gap cells := by
    simp only [draw, bind, Except.bind] at hok
    rcases hspaces : m.repeated gap " " with f | before
    · simp only [hspaces] at hok
      cases hok
    obtain ⟨hspaces', rfl⟩ := Machine.repeated_eq_ok_iff.1 hspaces
    rw [Text.times_space] at hspaces
    simp only [hspaces] at hok
    rcases hfront : m.append (Text.spaces gap.toNat) glyphs.caret with f | front
    · simp only [hfront] at hok
      cases hok
    obtain ⟨hfront', rfl⟩ := Machine.append_eq_ok_iff.1 hfront
    simp only [hfront] at hok
    rcases hfillers : m.repeated (fillers cells) glyphs.filler with f | rest
    · simp only [hfillers] at hok
      cases hok
    obtain ⟨hfillers', rfl⟩ := Machine.repeated_eq_ok_iff.1 hfillers
    simp only [hfillers] at hok
    obtain ⟨hwhole, -⟩ := Machine.append_eq_ok_iff.1 hok
    rw [toNat_fillers] at hwhole
    exact ⟨hspaces', hfront', hfillers', hwhole⟩
  rw [draw_of_draws h] at hok
  cases hok
  exact ⟨h, rfl⟩

theorem draw_of_not_draws (h : ¬ Draws m glyphs gap cells) :
    ∃ f, draw m glyphs gap cells = .error f := by
  rcases hdraw : draw m glyphs gap cells with f | t
  · exact ⟨f, rfl⟩
  · exact absurd (draw_eq_ok_iff.1 hdraw).1 h

/-- No memory holds a gap of so many cells. -/
theorem draw_usual_of_wide (glyphs : Glyphs) (cells : Int) :
    draw .usual glyphs 0x4000000000000000 cells = .error .memory := by
  have hspaces : Machine.usual.repeated 0x4000000000000000 " " = .error .memory := by decide +kernel
  rw [draw, hspaces]
  rfl

/-- A machine with room for all that a marker is put together from draws it. -/
theorem draws_of_hasRoom {limit g k : Nat} (h : m.HasRoom limit) (hgap : 0 ≤ gap) (hgap' : gap ≤ g)
    (hcells : 0 ≤ cells) (hcells' : cells ≤ k) (hk : k ≤ limit)
    (hlimit : g + glyphs.caret.length + k * glyphs.filler.length ≤ limit) :
    Draws m glyphs gap cells := by
  have hspace : g * (" " : Text).length = g := Nat.mul_one g
  have hfillers : 0 ≤ fillers cells ∧ fillers cells ≤ cells := by
    unfold fillers
    split <;> omega
  have hfront : (Text.spaces gap.toNat).length ≤ g := by
    rw [Text.spaces, List.length_replicate]
    omega
  have hrest : (Text.times (cells - 1).toNat glyphs.filler).length ≤ k * glyphs.filler.length := by
    rw [Text.length_times]
    exact Nat.mul_le_mul_right _ (by omega)
  refine ⟨h.repeatable hgap hgap' (by omega) (by rw [hspace]; omega), h.joinable (by omega),
    h.repeatable hfillers.1 (by omega) hk (by omega), h.joinable ?_⟩
  rw [List.length_append]
  omega

/-! ### Markers and tokens -/

theorem ofRunes_token (width : Width) {rs : List Rune} {t : Text}
    (h : rs.map Rune.point = t.map some) :
    ofRunes width (token rs) = ofText width (t.takeWhile fun c => !blanks.contains c) := by
  let runsOn : Option CodePoint → Bool := fun o => !o.any blanks.contains
  have hrune : (fun r : Rune => !isBlank r) = runsOn ∘ Rune.point := by
    funext r
    rcases r with ⟨_ | c, n⟩
    · rfl
    · rfl
  refine ofRunes_of_points width ?_
  calc (token rs).map Rune.point
      = (rs.map Rune.point).takeWhile runsOn := by rw [token, hrune, List.takeWhile_map]
    _ = (t.map some).takeWhile runsOn := by rw [h]
    _ = (t.takeWhile (runsOn ∘ some)).map some := by rw [List.takeWhile_map]

/-- The cells before the place of code point `i` are those of the decoded text. -/
theorem ofBytes_take_span (width : Width) (line : Bytes) (i : Nat) :
    ofBytes width (line.take (span ((runes line).take i))) =
      ofText width ((decode line).take i) := by
  rw [ofBytes, runes_take, ofRunes_take]

theorem ofRunes_token_drop_span (width : Width) (line : Bytes) (i : Nat) :
    ofRunes width (token (runes (line.drop (span ((runes line).take i))))) =
      ofText width (run (decode line) i) := by
  have hafter : ((runes line).drop i).map Rune.point = ((decode line).drop i).map some := by
    rw [List.map_drop, map_point_runes, List.map_drop]
  rw [runes_drop, ofRunes_token width hafter]
  rfl

theorem atOffset_span (m : Machine) (width : Width) (glyphs : Glyphs) (line : Bytes) (i : Nat) :
    atOffset m width glyphs line (span ((runes line).take i)) =
      draw m glyphs (ofText width ((decode line).take i)) (ofText width (run (decode line) i)) := by
  rw [atOffset, ofBytes_take_span, ofRunes_token_drop_span]

theorem atOffset_of_drawable (h : Drawable m width glyphs (decode line) i) :
    atOffset m width glyphs line (span ((runes line).take i)) =
      .ok (under width glyphs (decode line) i) :=
  (atOffset_span m width glyphs line i).trans (draw_of_draws h)

/-! ### Under a column -/

/-- The machine can draw the marker under byte offset `start` of a line. -/
def DrawsAt (m : Machine) (width : Width) (glyphs : Glyphs) (line : Bytes) (start : Nat) : Prop :=
  Draws m glyphs (ofBytes width (line.take start)) (ofRunes width (token (runes (line.drop start))))

theorem atOffset_of_not_drawsAt (h : ¬ DrawsAt m width glyphs line start) :
    ∃ f, atOffset m width glyphs line start = .error f := draw_of_not_draws h

theorem exists_atOffset_iff :
    (∃ t, atOffset m width glyphs line start = .ok t) ↔ DrawsAt m width glyphs line start :=
  ⟨fun ⟨_, ht⟩ => (draw_eq_ok_iff.1 ht).1, fun h => ⟨_, draw_of_draws h⟩⟩

theorem drawsAt_span_iff : DrawsAt m width glyphs line (span ((runes line).take i)) ↔
    Drawable m width glyphs (decode line) i := by
  rw [DrawsAt, ofBytes_take_span, ofRunes_token_drop_span, Drawable]

/-- A code point can be too narrow for a marker behind it, on every machine. -/
theorem not_drawsAt_narrow (m : Machine) (glyphs : Glyphs) :
    ¬ DrawsAt m (fun _ => -0x8000000000000001) glyphs [0x61] 1 := by
  intro h
  have hread : runes [0x61] = [⟨some 'a', 1⟩] := by cbv
  have hgap : ofBytes (fun _ => -0x8000000000000001) [0x61] = -0x8000000000000001 := by
    rw [ofBytes, hread]
    rfl
  have hcount := h.spaces.count
  rw [show ([0x61] : Bytes).take 1 = [0x61] from rfl, hgap] at hcount
  exact absurd hcount (by decide)

/-- And it can be too wide for the memory of a usual machine. -/
theorem atOffset_usual_wide (glyphs : Glyphs) :
    atOffset .usual (fun _ => 0x4000000000000000) glyphs [0x61] 1 = .error .memory := by
  have hread : runes [0x61] = [⟨some 'a', 1⟩] := by cbv
  have hgap : ofBytes (fun _ => 0x4000000000000000) [0x61] = 0x4000000000000000 := by
    rw [ofBytes, hread]
    rfl
  rw [atOffset, show ([0x61] : Bytes).take 1 = [0x61] from rfl, hgap]
  exact draw_usual_of_wide _ _

/-- `r` is a marker behind `gap` cells, of a token of `cells` cells, or, if the machine cannot carry
out a step of drawing it, what is raised then. -/
structure Marks (m : Machine) (glyphs : Glyphs) (gap cells : Int) (r : Except Fault Text) :
    Prop where
  drawn : Draws m glyphs gap cells → r = .ok (mark glyphs gap cells)
  undrawn : ¬ Draws m glyphs gap cells → ∃ f : Text.Fault, r = .error (.text f) ∧
    (f.exception.isA .overflow = true ∨ f.exception.isA .memory = true)

theorem marks_atColumn (m : Machine) (width : Width) (glyphs : Glyphs) (line : Bytes)
    (start : Nat) :
    Marks m glyphs (ofBytes width (line.take start))
      (ofRunes width (token (runes (line.drop start))))
      (atColumn m width glyphs line ((start : Int) + 1)) := by
  rw [atColumn_add_one, atOffset]
  refine ⟨fun h => by rw [draw_of_draws h]; rfl, fun h => ?_⟩
  obtain ⟨f, hf⟩ := draw_of_not_draws h
  rw [hf]
  exact ⟨f, rfl, f.isA_overflow_or_memory⟩

end CaretReport.Marker
