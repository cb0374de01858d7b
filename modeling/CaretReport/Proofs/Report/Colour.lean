import CaretReport.Proofs.Paint.Strip
import CaretReport.Proofs.Report.Script

/-!
# Paint adds escape sequences only

The texts of a message, a path, a kind and a source may hold escape sequences, or parts of them at
their ends. Between the rows of a report there is always a text that keeps such parts from growing
together (`uncrossed_script`). So the paint of a library that puts escape sequences around texts can
be taken off a report: `Reporter.write_painted`. There is paint to take off, if the library leaves
nothing as it is: `Reporter.length_added_lt`.
-/

namespace CaretReport

open Escape

/-- What the library is forced to colour does not stay as it is. -/
structure Colouring.Shows (colored : Colouring) : Prop where
  forced : ∀ env colour attributes t, t ≠ [] → colored env true colour attributes t ≠ t

theorem Colouring.shows_ansi : ansi.Shows := by
  refine ⟨fun env colour attributes t _ h => ?_⟩
  have hlength := congrArg List.length h
  have hend : 0 < (escapeSequence 0).length := by decide
  simp only [ansi, Bool.true_or, ↓reduceIte, List.length_append] at hlength
  omega

namespace Report

variable {ts : List Text}

theorem uncrossed_header (d : Diagnostic) (h : Uncrossed ts) :
    Uncrossed ((headerPieces d).map Piece.text ++ ts) := by
  have hend : Closed (" [" ++ d.kind ++ "]\n") :=
    Closed.append_left (by decide) (by decide) _
  have hstart : Fresh (" [" ++ d.kind ++ "]\n") := by
    rw [List.append_assoc]
    exact Fresh.append_right (by decide) _
  have hcolon : Closed ":" := by decide
  have hspace : Closed ": " := by decide
  refine .fresh (u := ":") (by decide) (.closed hcolon ?_)
  refine .fresh (u := ":") (by decide) (.closed hcolon ?_)
  refine .fresh (u := ": ") (by decide) (.closed hspace ?_)
  exact .fresh hstart (.closed hend h)

/-- A header that ends in front of a number ends with a colon. -/
theorem uncrossed_header_take (d : Diagnostic) {k : Nat} (hk : k = 2 ∨ k = 4) :
    Uncrossed (((headerPieces d).take k).map Piece.text) := by
  have hcolon : Closed ":" := by decide
  rcases hk with rfl | rfl
  · exact .fresh (u := ":") (by decide) (.closed hcolon .nil)
  · refine .fresh (u := ":") (by decide) (.closed hcolon ?_)
    exact .fresh (u := ":") (by decide) (.closed hcolon .nil)

theorem uncrossed_snippet (p : Position) (line : Bytes) (h : Uncrossed ts) :
    Uncrossed ((snippetPieces p line).map Piece.text ++ ts) := by
  have hbar : ∀ t : Text, Closed (t ++ "| ") := Closed.append_left (by decide) (by decide)
  have hend : Closed (Utf8.decode line ++ "\n") := Closed.append_left (by decide) (by decide) _
  exact .closed (hbar _) (.closed hend (.closed (hbar _) h))

theorem uncrossed_marker (t : Text) : Uncrossed ((markerPieces t).map Piece.text) :=
  .fresh (u := "\n") (by decide) (.closed (by decide) .nil)

/-- No escape sequence crosses a border between the texts of a report. -/
theorem uncrossed_script (m : Machine) (width : Width) (glyphs : Glyphs) (d : Diagnostic)
    (source : Option Buffer) :
    Uncrossed ((script m width glyphs d source).pieces.map Piece.text) := by
  have hshape := script_shape m width glyphs d source
  generalize script m width glyphs d source = sc at hshape
  cases hshape with
  | unwritable _ hk => exact uncrossed_header_take d hk
  | header =>
    have hheader := uncrossed_header d .nil
    rwa [List.append_nil] at hheader
  | @undrawable line =>
    have hsnippet := uncrossed_snippet d.position line .nil
    rw [List.append_nil] at hsnippet
    rw [List.map_append]
    exact uncrossed_header d hsnippet
  | @full line t =>
    rw [List.map_append, List.map_append]
    exact uncrossed_header d (uncrossed_snippet d.position line (uncrossed_marker t))

end Report

namespace Piece

variable {colored : Colouring}

theorem length_le_render (h : colored.Wraps) (env : Environment) (p : Painter) (piece : Piece) :
    piece.text.length ≤ (piece.render colored env p).length := by
  rcases render_eq colored env p piece with heq | ⟨colour, attributes, heq⟩
  · rw [heq]
  · obtain ⟨before, after, -, -, hwrapped⟩ := h.forced env colour attributes piece.text
    rw [heq, hwrapped, List.length_append, List.length_append]
    omega

theorem length_flatten_le_render (h : colored.Wraps) (env : Environment) (p : Painter)
    (pieces : List Piece) :
    (pieces.map Piece.text).flatten.length ≤
      (pieces.map (render colored env p)).flatten.length := by
  induction pieces with
  | nil => exact Nat.le_refl 0
  | cons piece pieces ih =>
    have hle := length_le_render h env p piece
    simp only [List.map_cons, List.flatten_cons, List.length_append]
    omega

/-- A switched painter makes a text longer, unless there is none. -/
theorem length_lt_paint (h : colored.Wraps) (hshows : colored.Shows) (env : Environment)
    (role : Role) {t : Text} (ht : t ≠ []) :
    t.length < (Painter.paint colored env { enabled := true } role t).length := by
  have hpaint : Painter.paint colored env { enabled := true } role t =
      colored env true role.colour?
        (if role.attributes.isEmpty then none else some role.attributes) t := by
    rw [Painter.paint, if_neg (by simp [ht])]
  rw [hpaint]
  generalize (if role.attributes.isEmpty then none else some role.attributes) = attributes
  obtain ⟨before, after, -, -, hwrapped⟩ := h.forced env role.colour? attributes t
  have hne := hshows.forced env role.colour? attributes t ht
  rw [hwrapped] at hne ⊢
  rw [List.length_append, List.length_append]
  refine Nat.lt_of_not_le fun hle => hne ?_
  have hbefore : before.flatten = [] := List.length_eq_zero_iff.1 (by omega)
  have hafter : after.flatten = [] := List.length_eq_zero_iff.1 (by omega)
  rw [hbefore, hafter, List.nil_append, List.append_nil]

end Piece

namespace Reporter

open Report

/-- Paint makes a report longer, whatever it is about. -/
theorem length_added_lt (host : Host) (h : host.colored.Wraps) (hshows : host.colored.Shows)
    (width : Option Width) (glyphs : Glyphs) (env env' : Environment) (d : Diagnostic)
    (source : Option Buffer) {s s' : Stream} (hs : s.Sound) (hs' : s'.Sound) :
    let o :=
      ({ painter := some { enabled := true }, width, glyphs } : Reporter).write host env d source s
    let o' := ({ painter := some { enabled := false }, width, glyphs } : Reporter).write host env' d
      source s'
    (o'.added s').length < (o.added s).length := by
  intro o o'
  let width' := width.getD (Cells.display host.wcwidth)
  obtain ⟨rest, hpieces⟩ := exists_script_pieces host.machine width' glyphs d source
  have ho : o.added s = _ := added_of_sound rfl hs
  have ho' : o'.added s' = _ := added_of_sound rfl hs'
  have hpath := Piece.length_le_render h env { enabled := true } (.painted .path d.path)
  have hcolon := Piece.length_lt_paint h hshows env .muted (t := ":") (by decide)
  have hrest := Piece.length_flatten_le_render h env { enabled := true } rest
  have hplain : Piece.render host.colored env' { enabled := false } = Piece.text :=
    funext (Piece.render_disabled host.colored env')
  rw [ho, ho', hplain, script, script]
  simp only [widthOn]
  rw [hpieces]
  simp only [List.map_cons, List.flatten_cons, List.length_append]
  exact Nat.add_lt_add_of_le_of_lt hpath (Nat.add_lt_add_of_lt_of_le hcolon hrest)

/-- A painted report and one without paint, each on a stream that takes every write: they end the
same way after equally many writes, and differ in escape sequences only. They do differ, unless the
library leaves texts as they are where it is forced to colour them. -/
theorem write_painted (host : Host) (h : host.colored.Wraps) (width : Option Width)
    (glyphs : Glyphs) (env env' : Environment) (d : Diagnostic) (source : Option Buffer)
    {s s' : Stream} (hs : s.Sound) (hs' : s'.Sound) :
    let o :=
      ({ painter := some { enabled := true }, width, glyphs } : Reporter).write host env d source s
    let o' := ({ painter := some { enabled := false }, width, glyphs } : Reporter).write host env' d
      source s'
    o.result = o'.result ∧ o.logs = o'.logs ∧ o.attempts s = o'.attempts s' ∧
      strip (o.added s) = strip (o'.added s') ∧
      ((∀ m, IsEscape m → ¬ m <:+: o'.added s') → strip (o.added s) = o'.added s') ∧
      (host.colored.Shows → (o'.added s').length < (o.added s).length) := by
  intro o o'
  have hp : ({ painter := some { enabled := true }, width, glyphs } : Reporter).painterOn env s =
      .ok { enabled := true } := rfl
  have hp' :
      ({ painter := some { enabled := false }, width, glyphs } : Reporter).painterOn env' s' =
      .ok { enabled := false } := rfl
  have ho : o = _ := write_of_sound hp hs
  have ho' : o' = _ := write_of_sound hp' hs'
  have hstrip : strip (o.added s) = strip (o'.added s') := by
    rw [added_of_sound hp hs, added_of_sound hp' hs', script, script,
      strip_flatten_render (uncrossed_script ..) h, strip_flatten_render (uncrossed_script ..) h]
    rfl
  refine ⟨?_, ?_, ?_, hstrip, fun hnone => ?_, fun hshows =>
    length_added_lt host h hshows width glyphs env env' d source hs hs'⟩
  · rw [ho, ho', conclude_anywhere]
    rfl
  · rw [ho, ho', conclude_anywhere]
    rfl
  · rw [attempts_of_sound hp hs, attempts_of_sound hp' hs']
    rfl
  · rw [hstrip, strip_eq_self hnone]

/-- A message that ends in half an escape sequence. -/
theorem write_painted_half_escape :
    let d : Diagnostic :=
      ⟨[Colouring.escape] ++ "[", "a", ⟨1, 1, by decide, by decide⟩, "k"⟩
    let o := ({ painter := some { enabled := true } } : Reporter).write .usual {} d none {}
    o.attempts {} = 8 ∧ strip (o.added {}) = "a:1:1: " ++ [Colouring.escape] ++ "[ [k]\n" ∧
      13 < (o.added {}).length := by
  intro d o
  have hs : Stream.Sound {} := rfl
  obtain ⟨-, -, hattempts, -, hplain, hlonger⟩ :=
    write_painted .usual Colouring.wraps_ansi none {} {} {} d none hs hs
  refine ⟨hattempts.trans (by decide +kernel), (hplain fun m hm hi => ?_).trans (by decide +kernel),
    Nat.lt_of_le_of_lt (by decide +kernel) (hlonger Colouring.shows_ansi)⟩
  obtain ⟨ps, rfl, -⟩ := hm
  have hmem := hi.subset (show CodePoint.ofChar 'm' ∈ _ by simp)
  revert hmem
  decide +kernel

end Reporter

end CaretReport
