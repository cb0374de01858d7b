import CaretReport.Proofs.Report.Alignment
import CaretReport.Proofs.Source.Lines

/-!
# The rows of a report

An unpainted report starts with the text of its diagnostic in a row of its own, if there is one. Two
more rows follow if the source holds the position, and nothing if the position is `Outside`:
`Reporter.write_rows`. The line of the source stays one row, because decoding makes no line feeds.
-/

namespace CaretReport

/-! ### Texts without line feeds -/

namespace Text

variable {n : Nat} {t : Text}

theorem lineFeed_not_mem_ofNat (n : Nat) : CodePoint.lineFeed ∉ ofNat n := by
  intro h
  obtain ⟨hlow, -⟩ := val_of_mem_ofNat h
  exact absurd hlow (by decide)

theorem lineFeed_not_mem_spaces (n : Nat) : CodePoint.lineFeed ∉ spaces n := by
  intro h
  exact absurd (List.eq_of_mem_replicate h) (by decide)

theorem lineFeed_not_mem_times (h : CodePoint.lineFeed ∉ t) (n : Nat) :
    CodePoint.lineFeed ∉ times n t := by
  intro hmem
  obtain ⟨u, hu, hin⟩ := List.mem_flatten.1 hmem
  rw [List.eq_of_mem_replicate hu] at hin
  exact h hin

end Text

namespace Report

open Source

/-- The position lies outside of the data: they have fewer lines, or its line ends before its
column. -/
inductive Outside (data : Bytes) (p : Position) : Prop
  | line (h : lineCount data < p.line)
  | column {piece : Bytes} (hpiece : (data.splitOn lineFeed)[p.line - 1]? = some piece)
    (h : (dropReturn piece).length < p.column - 1)

variable {m : Machine} {d : Diagnostic} {p : Position} {buffer : Buffer} {source : Option Buffer}
  {data line : Bytes}

theorem outside_nil (p : Position) : Outside [] p := .line p.line_pos

theorem not_outside_iff :
    ¬ Outside data p ↔ ∃ line, line? data p.line = some line ∧ p.column - 1 ≤ line.length := by
  constructor
  · intro h
    have hle : p.line ≤ lineCount data := Nat.le_of_not_lt fun hlt => h (.line hlt)
    obtain ⟨piece, hpiece, hline⟩ := exists_line? p.line_pos hle
    exact ⟨_, hline, Nat.le_of_not_lt fun hlt => h (.column hpiece hlt)⟩
  · rintro ⟨line, hline, hcolumn⟩ (h | @⟨piece, hpiece, h⟩)
    · rw [line?_eq_none h] at hline
      cases hline
    · rcases Nat.lt_or_ge (lineCount data) p.line with hlt | hle
      · rw [line?_eq_none hlt] at hline
        cases hline
      obtain ⟨piece', hpiece', hline'⟩ := exists_line? p.line_pos hle
      rw [hpiece] at hpiece'
      cases hpiece'
      rw [hline] at hline'
      cases hline'
      omega

theorem excerpt_eq_shown_iff (hbuffer : buffer.Holds data) :
    excerpt d (some buffer) = .shown line ↔
      line? data d.position.line = some line ∧ d.position.column - 1 ≤ line.length := by
  refine ⟨fun h => ?_, fun ⟨hline, hcolumn⟩ => excerpt_of_line hbuffer hline hcolumn⟩
  simp only [excerpt, hbuffer.encode, lineAt] at h
  split at h
  · cases h
  rcases hline : line? data d.position.line with _ | line'
  · rw [hline] at h
    cases h
  rw [hline] at h
  rcases Nat.lt_or_ge line'.length (d.position.column - 1) with hshort | hcolumn
  · simp only [hshort, ↓reduceIte, reduceCtorEq] at h
  · simp only [Nat.not_lt.2 hcolumn, ↓reduceIte, Excerpt.shown.injEq] at h
    exact ⟨congrArg some h, h ▸ hcolumn⟩

theorem line?_of_shown (hsource : ∀ buffer ∈ source, buffer.Holds data)
    (h : excerpt d source = .shown line) : line? data d.position.line = some line := by
  cases source with
  | none => cases h
  | some buffer => exact ((excerpt_eq_shown_iff (hsource buffer rfl)).1 h).1

/-- A line is shown exactly if there is a source that holds the position. -/
theorem exists_shown_iff (hsource : ∀ buffer ∈ source, buffer.Holds data) :
    (∃ line, excerpt d source = .shown line) ↔
      ¬ (source = none ∨ data = [] ∨ Outside data d.position) := by
  cases source with
  | none => simp [excerpt]
  | some buffer =>
    have hnil : data = [] → Outside data d.position := by
      rintro rfl
      exact outside_nil d.position
    simp only [excerpt_eq_shown_iff (hsource buffer rfl), ← not_outside_iff, reduceCtorEq, false_or,
      or_iff_right_of_imp hnil]

theorem pieces_of_not_shown (width : Width) (glyphs : Glyphs) (hwritable : d.Writable m)
    (h : ∀ line, excerpt d source ≠ .shown line) :
    (script m width glyphs d source).pieces = headerPieces d := by
  have hshape := script_shape m width glyphs d source
  generalize script m width glyphs d source = sc at hshape
  cases hshape with
  | unwritable hnot => exact absurd hwritable hnot
  | header => rfl
  | @undrawable line f hline => exact absurd hline (h line)
  | @full line t hline => exact absurd hline (h line)

/-! ### Counting rows -/

theorem count_sourceRow (p : Position) (h : lineFeed ∉ line) :
    (sourceRow p (Utf8.decode line)).count .lineFeed = 1 := by
  have hnumber := List.count_eq_zero.2 (Text.lineFeed_not_mem_ofNat p.line)
  have hline : (Utf8.decode line).count .lineFeed = 0 :=
    List.count_eq_zero.2 (mt isAscii_lineFeed.mem_decode_iff.1 h)
  rw [sourceRow, List.count_append, List.count_append, List.count_append, hnumber, hline]
  rfl

theorem sourceRow_ne_nil (p : Position) (t : Text) : sourceRow p t ≠ [] :=
  List.append_ne_nil_of_right_ne_nil _ (List.cons_ne_nil _ _)

theorem count_gutter (p : Position) : (gutter p).count .lineFeed = 0 := by
  have hspaces := List.count_eq_zero.2 (Text.lineFeed_not_mem_spaces (Text.ofNat p.line).length)
  rw [gutter, List.count_append, hspaces]
  rfl

theorem count_marker {width : Width} {glyphs : Glyphs} {start : Nat} {t : Text}
    (ht : Marker.atOffset m width glyphs line start = .ok t)
    (hcaret : CodePoint.lineFeed ∉ glyphs.caret) (hfiller : CodePoint.lineFeed ∉ glyphs.filler) :
    t.count .lineFeed = 0 := by
  obtain ⟨-, rfl⟩ := Marker.draw_eq_ok_iff.1 ht
  rw [Marker.mark, List.count_append, List.count_append,
    List.count_eq_zero.2 (Text.lineFeed_not_mem_spaces _), List.count_eq_zero.2 hcaret,
    List.count_eq_zero.2 (Text.lineFeed_not_mem_times hfiller _)]

end Report

namespace Reporter

open Report Source

variable {host : Host} {r : Reporter} {d : Diagnostic} {source : Option Buffer} {data : Bytes}
  {s : Stream}

theorem content_of_not_shown (env : Environment) (hpainter : r.painter = some { enabled := false })
    (hs : s.Sound) (hwritable : d.Writable host.machine)
    (h : ∀ line, excerpt d source ≠ .shown line) :
    (r.write host env d source s).stream.content = s.content ++ (d.plain ++ "\n") := by
  rw [content_of_sound hpainter hs, script, pieces_of_not_shown _ _ hwritable h,
    flatten_headerPieces]

/-- Without a text of the diagnostic, the report breaks off in front of the number that cannot be
written, with the same exception. -/
theorem write_of_not_writable (env : Environment) (hpainter : r.painter = some { enabled := false })
    (hs : s.Sound) (source : Option Buffer) {e : Exception}
    (htext : d.toText host.machine = .error e) :
    (r.write host env d source s).result = .error (.own e) ∧
      ((r.write host env d source s).stream.content = s.content ++ (d.path ++ ":") ∨
        (r.write host env d source s).stream.content =
          s.content ++ (d.path ++ ":" ++ Text.ofNat d.position.line ++ ":")) := by
  have hp : r.painterOn env s = .ok { enabled := false } := by rw [painterOn, hpainter]
  have hnot : ¬ d.Writable host.machine := fun h => by
    rw [Diagnostic.toText_of_writable h] at htext
    cases htext
  obtain ⟨k, limit, hk, htext', hscript⟩ :=
    script_of_not_writable hnot (r.widthOn host) r.glyphs source
  rw [htext'] at htext
  cases htext
  refine ⟨?_, ?_⟩
  · rw [write_of_sound hp hs, script, hscript, conclude, fail_of_not_writable rfl htext']
  · rw [content_of_sound hpainter hs, script, hscript]
    rcases hk with rfl | rfl
    · exact .inl (by simp [headerPieces, Piece.painted])
    · exact .inr (by simp [headerPieces, Piece.painted, Piece.plain])

/-- An unpainted report starts with the text of its diagnostic, and a line feed. Nothing follows
exactly if there is no source or it does not hold the position. Otherwise two rows follow; the
second ends behind its gutter if the marker cannot be drawn. If the diagnostic has no text, the
report fails as writing that does, in the middle of the first row. -/
theorem write_rows (host : Host) (env : Environment)
    (hpainter : r.painter = some { enabled := false }) (hs : s.Sound)
    (hsource : ∀ buffer ∈ source, buffer.Holds data) :
    (∀ header, d.toText host.machine = .ok header → ∃ rest : Text,
      (r.write host env d source s).stream.content = s.content ++ (header ++ "\n") ++ rest ∧
      (rest = [] ↔ source = none ∨ data = [] ∨ Outside data d.position) ∧
      (rest ≠ [] → ∃ line, line? data d.position.line = some line ∧
        (Marker.DrawsAt host.machine (r.widthOn host) r.glyphs line (d.position.column - 1) →
          (r.write host env d source s).result = .ok () ∧ rest.getLast? = some .lineFeed ∧
            (CodePoint.lineFeed ∉ r.glyphs.caret → CodePoint.lineFeed ∉ r.glyphs.filler →
              rest.count .lineFeed = 2)) ∧
        (¬ Marker.DrawsAt host.machine (r.widthOn host) r.glyphs line (d.position.column - 1) →
          (∃ f : Text.Fault, (r.write host env d source s).result = .error (.own f.exception) ∧
              (f.exception.isA .overflow = true ∨ f.exception.isA .memory = true)) ∧
            rest = sourceRow d.position (Utf8.decode line) ++ gutter d.position))) ∧
      ∀ e, d.toText host.machine = .error e →
        (r.write host env d source s).result = .error (.own e) ∧
          ((r.write host env d source s).stream.content = s.content ++ (d.path ++ ":") ∨
            (r.write host env d source s).stream.content =
              s.content ++ (d.path ++ ":" ++ Text.ofNat d.position.line ++ ":")) := by
  refine ⟨fun header hheader => ?_, fun e he => write_of_not_writable env hpainter hs source he⟩
  obtain ⟨hwritable, rfl⟩ := Diagnostic.toText_eq_ok_iff.1 hheader
  by_cases hout : source = none ∨ data = [] ∨ Outside data d.position
  · have hnone : ∀ line, excerpt d source ≠ .shown line := fun line hline =>
      (exists_shown_iff hsource).1 ⟨line, hline⟩ hout
    refine ⟨[], ?_, iff_of_true rfl hout, fun h => absurd rfl h⟩
    rw [content_of_not_shown env hpainter hs hwritable hnone, List.append_nil]
  obtain ⟨line, hshown⟩ := (exists_shown_iff hsource).2 hout
  have hline := line?_of_shown hsource hshown
  have hrow : ∀ t : Text, sourceRow d.position (Utf8.decode line) ++ t ≠ [] := fun t =>
    List.append_ne_nil_of_left_ne_nil (sourceRow_ne_nil _ _) t
  by_cases hdraw : Marker.DrawsAt host.machine (r.widthOn host) r.glyphs line
      (d.position.column - 1)
  · obtain ⟨t, ht⟩ := Marker.exists_atOffset_iff.2 hdraw
    obtain ⟨hok, hcontent⟩ := write_of_shown env hpainter hs hshown ht
    refine ⟨_, ?_, iff_of_false (hrow (gutter d.position ++ t ++ "\n")) hout,
      fun _ => ⟨line, hline, fun _ => ⟨hok, ?_, fun hcaret hfiller => ?_⟩, fun h => absurd hdraw h⟩⟩
    · rw [hcontent, List.append_assoc]
    · have hend : ("\n" : Text) = [.lineFeed] := rfl
      rw [hend, ← List.append_assoc, List.getLast?_concat]
    · rw [List.count_append, List.count_append, List.count_append,
        count_sourceRow _ (not_mem_of_line? hline), count_gutter, count_marker ht hcaret hfiller]
      rfl
  · obtain ⟨hfault, hcontent⟩ := write_of_not_drawsAt env hpainter hs hshown hdraw
    refine ⟨_, ?_, iff_of_false (hrow (gutter d.position)) hout,
      fun _ => ⟨line, hline, fun h => absurd h hdraw, fun _ => ⟨hfault, rfl⟩⟩⟩
    rw [hcontent, List.append_assoc]

/-- A line that ends in a byte that is no text and in a carriage return, with the column behind
it. -/
theorem write_rows_malformed :
    let r : Reporter := { painter := some { enabled := false } }
    let d : Diagnostic := ⟨"m", "a.yml", ⟨1, 3, by decide, by decide⟩, "k"⟩
    let o := r.write .usual {} d (some (.bytes [0x78, 0xFF, 0x0D, 0x0A] (by decide))) {}
    ∃ header rest : Text, d.toText Machine.usual = .ok header ∧
      o.stream.content = header ++ "\n" ++ rest ∧ o.result = .ok () ∧
        rest.getLast? = some .lineFeed ∧ rest.count .lineFeed = 2 := by
  intro r d o
  have hsource : ∀ buffer ∈ some (Buffer.bytes [0x78, 0xFF, 0x0D, 0x0A] (by decide)),
      buffer.Holds [0x78, 0xFF, 0x0D, 0x0A] := by
    rintro buffer ⟨⟩
    exact .bytes _ _
  have hwritable : d.Writable Host.usual.machine :=
    ⟨Machine.writes_of_lt (by decide), Machine.writes_of_lt (by decide)⟩
  obtain ⟨rest, hcontent, hnil, hrows⟩ := (write_rows (r := r) (d := d) (s := {}) .usual {} rfl rfl
    hsource).1 d.plain (Diagnostic.toText_of_writable hwritable)
  have hline : line? [0x78, 0xFF, 0x0D, 0x0A] d.position.line = some [0x78, 0xFF] := by decide
  have hshown : rest ≠ [] := by
    rw [Ne, hnil]
    rintro (h | h | h)
    · cases h
    · cases h
    · exact not_outside_iff.2 ⟨_, hline, by decide⟩ h
  obtain ⟨line, hline', hdrawn, -⟩ := hrows hshown
  rw [hline] at hline'
  cases hline'
  have htext : Utf8.decode [0x78, 0xFF] = "x�" := by cbv
  have hcolumn : 3 - 1 = Utf8.span ((Utf8.runes [0x78, 0xFF]).take 2) := by cbv
  have hbefore : Cells.ofText (Cells.display Cells.tabled) (("x�" : Text).take 2) = 2 := by
    decide +kernel
  have hrun : Cells.ofText (Cells.display Cells.tabled) (Marker.run "x�" 2) = 0 := by
    decide +kernel
  have hdrawable :
      Marker.DrawsAt Host.usual.machine (Cells.display Cells.tabled) {} [0x78, 0xFF] (3 - 1) := by
    rw [hcolumn, Marker.drawsAt_span_iff, htext, Marker.Drawable, hbefore, hrun]
    exact Marker.draws_of_hasRoom (Machine.hasRoom_usual (show 3 < _ by decide)) (g := 2) (k := 0)
      (by decide) (by decide) (by decide) (by decide) (by decide) (by decide)
  obtain ⟨hok, hlast, hcount⟩ := hdrawn hdrawable
  exact ⟨d.plain, rest, Diagnostic.toText_of_writable hwritable, hcontent, hok, hlast,
    hcount (by decide) (by decide)⟩

/-- A number that the usual interpreter does not write. -/
theorem write_usual_long (hd : 4300 < (Text.ofNat d.position.line).length) :
    ∃ e, d.toText .usual = .error e ∧ e.isA .value = true ∧
      (write { painter := some { enabled := false } } .usual {} d none {}).result =
        .error (.own e) := by
  have hnot : ¬ d.Writable Host.usual.machine := fun h => Machine.not_writes_usual hd h.1
  obtain ⟨limit, herror⟩ := Diagnostic.toText_of_not_writable hnot
  have hsound : Stream.Sound {} := rfl
  obtain ⟨hresult, -⟩ := write_of_not_writable
    (r := { painter := some { enabled := false } }) {} rfl hsound none herror
  exact ⟨_, herror, rfl, hresult⟩

/-- A snippet does not always end in a line feed, on no host: the width of a rune can be too low for
a repetition. And it can be too wide for the memory of a machine, and a number too long to be
written at all. -/
theorem not_forall_write_rows_complete :
    (∀ host : Host, ¬ ∀ (r : Reporter) (env : Environment) (d : Diagnostic) (source : Option Buffer)
      (data : Bytes) (s : Stream), r.painter = some { enabled := false } → s.Sound →
      (∀ buffer ∈ source, buffer.Holds data) →
      ∃ header rest : Text, d.toText host.machine = .ok header ∧
        (r.write host env d source s).stream.content = s.content ++ (header ++ "\n") ++ rest ∧
        (rest = [] ↔ source = none ∨ data = [] ∨ Outside data d.position) ∧
        (rest ≠ [] → rest.getLast? = some .lineFeed ∧
          (CodePoint.lineFeed ∉ r.glyphs.caret → CodePoint.lineFeed ∉ r.glyphs.filler →
            rest.count .lineFeed = 2))) ∧
      (let r : Reporter :=
        { painter := some { enabled := false }, width := some fun _ => 0x4000000000000000 }
      let d : Diagnostic := ⟨"m", "a.yml", ⟨1, 2, by decide, by decide⟩, "k"⟩
      let o := r.write .usual {} d (some (.bytes [0x61] (by decide))) {}
      o.result = .error (.own (.of .memory "")) ∧
        o.stream.content = d.plain ++ "\n" ++ (sourceRow d.position "a" ++ gutter d.position)) ∧
      ∀ d : Diagnostic, 4300 < (Text.ofNat d.position.line).length →
        ∃ e, d.toText .usual = .error e ∧ e.isA .value = true ∧
          (write { painter := some { enabled := false } } .usual {} d none {}).result =
            .error (.own e) := by
  let two : Diagnostic := ⟨"m", "a.yml", ⟨1, 2, by decide, by decide⟩, "k"⟩
  refine ⟨fun host hall => ?_, write_usual_wide (d := two) rfl rfl, fun d => write_usual_long⟩
  have hsource : ∀ buffer ∈ some (Buffer.bytes [0x61] (by decide)), buffer.Holds [0x61] := by
    rintro buffer ⟨⟩
    exact .bytes _ _
  obtain ⟨-, hcut⟩ := write_narrow (d := two) host rfl rfl
  obtain ⟨header, rest, hheader, hcontent, -, hrows⟩ :=
    hall (unpainted fun _ => -0x8000000000000001) {} two _ _ {} rfl rfl hsource
  obtain ⟨-, rfl⟩ := Diagnostic.toText_eq_ok_iff.1 hheader
  change _ = two.plain ++ "\n" ++ rest at hcontent
  rw [hcut, List.append_cancel_left_eq] at hcontent
  obtain ⟨hlast, -⟩ :=
    hrows (hcontent ▸ List.append_ne_nil_of_left_ne_nil (sourceRow_ne_nil _ _) _)
  rw [← hcontent] at hlast
  revert hlast
  decide +kernel

end Reporter

end CaretReport
