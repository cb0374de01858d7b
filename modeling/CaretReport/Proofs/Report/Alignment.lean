import CaretReport.Proofs.Report.Script
import CaretReport.Proofs.Source.Drawing

/-!
# The marker stands under its code point

`Reporter.write_aligned`: an unpainted report shows the decoded line behind its number, and under it
the marker of the code point that starts at the column. Decoding the line, measuring what stands
before the column and scanning the token from the column on all cut the line between the same runes.
-/

namespace CaretReport

/-! ### Sources -/

/-- The buffer stands for the bytes: it consists of them, or is a text without surrogates that they
encode. -/
inductive Buffer.Holds : Buffer → Bytes → Prop
  | bytes (b : Bytes) (hb : isMachineInt b.length) : Holds (.bytes b hb) b
  | text {t : Text} {ht : isMachineInt t.length} (h : ∀ c ∈ t, c.isSurrogate = false) :
    Holds (.text t ht) t.utf8

theorem Text.surrogates?_eq_none_iff {t : Text} :
    t.surrogates? = none ↔ ∀ c ∈ t, c.isSurrogate = false := by
  have hdrop : t.drop (t.takeWhile fun c => !c.isSurrogate).length =
      t.dropWhile fun c => !c.isSurrogate := by
    have hall := t.takeWhile_append_dropWhile (p := fun c => !c.isSurrogate)
    calc t.drop (t.takeWhile fun c => !c.isSurrogate).length
        = (t.takeWhile (fun c => !c.isSurrogate) ++ t.dropWhile fun c => !c.isSurrogate).drop
            (t.takeWhile fun c => !c.isSurrogate).length := by rw [hall]
      _ = t.dropWhile fun c => !c.isSurrogate := List.drop_left
  have hnone : t.surrogates? = none ↔ t.dropWhile (fun c => !c.isSurrogate) = [] := by
    rw [surrogates?, hdrop]
    split
    · next h => simp [h]
    · next h => simp [h]
  rw [hnone, List.dropWhile_eq_nil_iff]
  simp

theorem Buffer.Holds.encode {buffer : Buffer} {data : Bytes} (h : buffer.Holds data) :
    buffer.encode = .ok data := by
  cases h with
  | bytes => rfl
  | text h => rw [Buffer.encode, Text.encode, Text.surrogates?_eq_none_iff.2 h]

theorem Buffer.Holds.eq_nil {buffer : Buffer} {data : Bytes} (h : buffer.Holds data)
    (hempty : buffer.isEmpty = true) : data = [] := by
  cases h with
  | bytes => exact List.isEmpty_iff.1 hempty
  | text => rw [List.isEmpty_iff.1 hempty]; rfl

namespace Report

variable {d : Diagnostic} {buffer : Buffer} {data line : Bytes}

/-- A line that reaches up to the column is shown. -/
theorem excerpt_of_line (hbuffer : buffer.Holds data)
    (hline : Source.line? data d.position.line = some line)
    (hcolumn : d.position.column - 1 ≤ line.length) : excerpt d (some buffer) = .shown line := by
  have hempty : ¬ buffer.isEmpty = true := by
    intro h
    rw [hbuffer.eq_nil h, Source.line?] at hline
    split at hline <;> cases hline
  simp only [excerpt, hempty, hbuffer.encode, lineAt, hline, Nat.not_lt.2 hcolumn, ↓reduceIte,
    Bool.false_eq_true]

theorem flatten_headerPieces (d : Diagnostic) :
    ((headerPieces d).map Piece.text).flatten = d.plain ++ "\n" := by
  have hend : ("]\n" : Text) = "]" ++ "\n" := rfl
  simp [headerPieces, Piece.painted, Piece.plain, Diagnostic.plain, hend]

/-- The line of the source, behind its number. -/
def sourceRow (p : Position) (t : Text) : Text := Text.ofNat p.line ++ "| " ++ t ++ "\n"

/-- What stands below the number. -/
def gutter (p : Position) : Text := Text.spaces (Text.ofNat p.line).length ++ "| "

theorem flatten_snippetPieces (p : Position) (line : Bytes) :
    ((snippetPieces p line).map Piece.text).flatten =
      sourceRow p (Utf8.decode line) ++ gutter p := by
  simp [snippetPieces, Piece.painted, Piece.plain, sourceRow, gutter]

theorem flatten_markerPieces (t : Text) :
    ((markerPieces t).map Piece.text).flatten = t ++ "\n" := by
  simp [markerPieces, Piece.painted, Piece.plain]

end Report

namespace Reporter

open Report Utf8

variable {host : Host} {r : Reporter} {env : Environment} {d : Diagnostic} {buffer : Buffer}
  {data line : Bytes} {s : Stream} {i : Nat}

/-- An unpainted report on a stream that takes every write adds the texts of its script. -/
theorem content_of_sound {source : Option Buffer} (hpainter : r.painter = some { enabled := false })
    (hs : s.Sound) :
    (r.write host env d source s).stream.content =
      s.content ++ ((r.script host d source).pieces.map Piece.text).flatten := by
  have hp : r.painterOn env s = .ok { enabled := false } := by rw [painterOn, hpainter]
  have htexts : (r.script host d source).pieces.map (Piece.render host.colored env ⟨false⟩) =
      (r.script host d source).pieces.map Piece.text :=
    List.map_congr_left fun piece _ => Piece.render_disabled host.colored env piece
  rw [stream_of_sound hp hs, htexts]
  simp [Stream.content]

/-- The report on a line that is shown, with a marker that can be drawn. -/
theorem write_of_shown (env : Environment) {source : Option Buffer}
    (hpainter : r.painter = some { enabled := false }) (hs : s.Sound)
    (hshown : excerpt d source = .shown line) {t : Text}
    (ht : Marker.atOffset host.machine (r.widthOn host) r.glyphs line (d.position.column - 1) =
      .ok t) :
    (r.write host env d source s).result = .ok () ∧
      (r.write host env d source s).stream.content =
        s.content ++ (d.plain ++ "\n") ++ sourceRow d.position (decode line) ++
          (gutter d.position ++ t ++ "\n") := by
  have hp : r.painterOn env s = .ok { enabled := false } := by rw [painterOn, hpainter]
  have hscript := script_of_shown hshown ht
  refine ⟨?_, ?_⟩
  · rw [write_of_sound hp hs, script, hscript]
    rfl
  · rw [content_of_sound hpainter hs, script, hscript]
    simp only [List.map_append, List.flatten_append, flatten_headerPieces, flatten_snippetPieces,
      flatten_markerPieces, List.append_assoc]

/-- The report on a line that is shown, with a marker that cannot be drawn, ends behind the
gutter. -/
theorem write_of_shown_error (env : Environment) {source : Option Buffer}
    (hpainter : r.painter = some { enabled := false }) (hs : s.Sound)
    (hshown : excerpt d source = .shown line) {f : Text.Fault}
    (hf : Marker.atOffset host.machine (r.widthOn host) r.glyphs line (d.position.column - 1) =
      .error f) :
    (r.write host env d source s).result = .error (.own f.exception) ∧
      (r.write host env d source s).stream.content =
        s.content ++ (d.plain ++ "\n") ++ sourceRow d.position (decode line) ++
          gutter d.position := by
  have hp : r.painterOn env s = .ok { enabled := false } := by rw [painterOn, hpainter]
  have hscript := script_of_shown_error hshown hf
  refine ⟨?_, ?_⟩
  · rw [write_of_sound hp hs, script, hscript, conclude,
      fail_of_not_tolerated (f := .own f.exception) f.isTolerated_exception]
  · rw [content_of_sound hpainter hs, script, hscript]
    simp only [List.map_append, List.flatten_append, flatten_headerPieces, flatten_snippetPieces,
      List.append_assoc]

theorem write_of_not_drawsAt (env : Environment) {source : Option Buffer}
    (hpainter : r.painter = some { enabled := false }) (hs : s.Sound)
    (hshown : excerpt d source = .shown line)
    (h : ¬ Marker.DrawsAt host.machine (r.widthOn host) r.glyphs line (d.position.column - 1)) :
    (∃ f : Text.Fault, (r.write host env d source s).result = .error (.own f.exception) ∧
        (f.exception.isA .overflow = true ∨ f.exception.isA .memory = true)) ∧
      (r.write host env d source s).stream.content =
        s.content ++ (d.plain ++ "\n") ++ sourceRow d.position (decode line) ++
          gutter d.position := by
  obtain ⟨f, hf⟩ := Marker.atOffset_of_not_drawsAt h
  obtain ⟨hfault, hcontent⟩ := write_of_shown_error env hpainter hs hshown hf
  exact ⟨⟨f, hfault, f.isA_overflow_or_memory⟩, hcontent⟩

/-- What a line of one letter holds, for the column behind it. -/
theorem excerpt_letter (hline : d.position.line = 1) (hcolumn : d.position.column = 2) :
    excerpt d (some (.bytes [0x61] (by decide))) = .shown [0x61] :=
  excerpt_of_line (.bytes _ _) (by rw [hline]; decide) (by rw [hcolumn]; decide)

theorem decode_letter : decode [0x61] = ("a" : Text) := by cbv

/-- A reporter that does not paint, and measures in a width of its own. -/
abbrev unpainted (width : Width) : Reporter :=
  { painter := some { enabled := false }, width := some width }

/-- Behind a letter that is too narrow, no machine can draw the marker. -/
theorem write_narrow (host : Host) (hline : d.position.line = 1) (hcolumn : d.position.column = 2) :
    let r := unpainted fun _ => -0x8000000000000001
    let o := r.write host {} d (some (.bytes [0x61] (by decide))) {}
    (∃ f : Text.Fault, o.result = .error (.own f.exception)) ∧
      o.stream.content = d.plain ++ "\n" ++ (sourceRow d.position "a" ++ gutter d.position) := by
  intro r o
  have hdraw : ¬ Marker.DrawsAt host.machine (r.widthOn host) r.glyphs [0x61]
      (d.position.column - 1) := by
    rw [hcolumn]
    exact Marker.not_drawsAt_narrow host.machine r.glyphs
  obtain ⟨⟨f, hf, -⟩, hcontent⟩ :=
    write_of_not_drawsAt (s := {}) {} rfl rfl (excerpt_letter hline hcolumn) hdraw
  rw [decode_letter, List.append_assoc] at hcontent
  exact ⟨⟨f, hf⟩, hcontent⟩

/-- Behind a letter that is too wide, the memory of a usual machine does not hold the gap. -/
theorem write_usual_wide (hline : d.position.line = 1) (hcolumn : d.position.column = 2) :
    let r := unpainted fun _ => 0x4000000000000000
    let o := r.write .usual {} d (some (.bytes [0x61] (by decide))) {}
    o.result = .error (.own (.of .memory "")) ∧
      o.stream.content = d.plain ++ "\n" ++ (sourceRow d.position "a" ++ gutter d.position) := by
  intro r o
  have hmarker : Marker.atOffset Host.usual.machine (r.widthOn .usual) r.glyphs [0x61]
      (d.position.column - 1) = .error .memory := by
    rw [hcolumn]
    exact Marker.atOffset_usual_wide r.glyphs
  obtain ⟨hresult, hcontent⟩ :=
    write_of_shown_error (s := {}) {} rfl rfl (excerpt_letter hline hcolumn) hmarker
  rw [decode_letter, List.append_assoc] at hcontent
  exact ⟨hresult, hcontent⟩

/-- A line in which a rune starts at the column is shown. -/
theorem excerpt_of_rune (hbuffer : buffer.Holds data)
    (hline : Source.line? data d.position.line = some line)
    (hcolumn : d.position.column - 1 = span ((runes line).take i)) :
    excerpt d (some buffer) = .shown line := by
  refine excerpt_of_line hbuffer hline ?_
  rw [hcolumn, ← span_runes line]
  conv => rhs; rw [← List.take_append_drop i (runes line), span_append]
  exact Nat.le_add_right ..

/-- The report on a line with a marker that can be drawn. -/
theorem write_of_drawable (env : Environment) (hpainter : r.painter = some { enabled := false })
    (hs : s.Sound) (hbuffer : buffer.Holds data)
    (hline : Source.line? data d.position.line = some line)
    (hcolumn : d.position.column - 1 = span ((runes line).take i))
    (h : Marker.Drawable host.machine (r.widthOn host) r.glyphs (decode line) i) :
    (r.write host env d (some buffer) s).result = .ok () ∧
      (r.write host env d (some buffer) s).stream.content =
        s.content ++ (d.plain ++ "\n") ++ sourceRow d.position (decode line) ++
          (gutter d.position ++ Marker.under (r.widthOn host) r.glyphs (decode line) i ++
            "\n") := by
  refine write_of_shown env hpainter hs (excerpt_of_rune hbuffer hline hcolumn) ?_
  rw [hcolumn, Marker.atOffset_of_drawable h]

/-- The report on a line with a marker that cannot be drawn ends behind the gutter. -/
theorem write_of_not_drawable (env : Environment) (hpainter : r.painter = some { enabled := false })
    (hs : s.Sound) (hbuffer : buffer.Holds data)
    (hline : Source.line? data d.position.line = some line)
    (hcolumn : d.position.column - 1 = span ((runes line).take i))
    (h : ¬ Marker.Drawable host.machine (r.widthOn host) r.glyphs (decode line) i) :
    (∃ f : Text.Fault, (r.write host env d (some buffer) s).result = .error (.own f.exception) ∧
        (f.exception.isA .overflow = true ∨ f.exception.isA .memory = true)) ∧
      (r.write host env d (some buffer) s).stream.content =
        s.content ++ (d.plain ++ "\n") ++ sourceRow d.position (decode line) ++
          gutter d.position := by
  rw [← Marker.drawsAt_span_iff, ← hcolumn] at h
  exact write_of_not_drawsAt env hpainter hs (excerpt_of_rune hbuffer hline hcolumn) h

/-- Number and gutter take the same cells, and the gap takes those of the text before the code
point. -/
theorem display_rows {wcwidth : Width} (h : Cells.AsciiWidth wcwidth) (p : Position) (t : Text)
    (i : Nat) :
    Cells.ofText (Cells.display wcwidth) (Text.ofNat p.line ++ "| " ++ t.take i) =
      Cells.ofText (Cells.display wcwidth)
        (gutter p ++ Marker.gap (Cells.display wcwidth) t i) := by
  have hnonneg := Cells.ofText_display_nonneg wcwidth (t.take i)
  have hnumber := Cells.ofText_display h fun c (hc : c ∈ Text.ofNat p.line) =>
    Cells.isPrintable_of_mem_ofNat hc
  have hgutter := Cells.ofText_display h fun c (hc : c ∈ Text.spaces (Text.ofNat p.line).length) =>
    Cells.isPrintable_of_mem_spaces hc
  have hgap := Cells.ofText_display h fun c (hc : c ∈ Marker.gap (Cells.display wcwidth) t i) =>
    Cells.isPrintable_of_mem_spaces hc
  rw [gutter, Cells.ofText_append, Cells.ofText_append, Cells.ofText_append, Cells.ofText_append,
    hnumber, hgutter, hgap, Marker.gap]
  simp only [Text.spaces, List.length_replicate, Int.toNat_of_nonneg hnonneg]

/-- An unpainted report on a line in which a rune starts at the column: the header, the line behind
its number, and below it the marker of the code point of that rune. A marker that the machine cannot
put together is left out, and the report fails there. In display width, the marker starts in the
cell of its code point. -/
theorem write_aligned (host : Host) (env : Environment)
    (hpainter : r.painter = some { enabled := false }) (hs : s.Sound)
    (hbuffer : buffer.Holds data) (hline : Source.line? data d.position.line = some line)
    (hcolumn : d.position.column - 1 = span ((runes line).take i)) :
    ∃ header, d.toText host.machine = .ok header ∧
      (Marker.Drawable host.machine (r.widthOn host) r.glyphs (decode line) i →
        (r.write host env d (some buffer) s).result = .ok () ∧
          (r.write host env d (some buffer) s).stream.content =
            s.content ++ (header ++ "\n") ++ sourceRow d.position (decode line) ++
              (gutter d.position ++ Marker.under (r.widthOn host) r.glyphs (decode line) i ++
                "\n")) ∧
      (¬ Marker.Drawable host.machine (r.widthOn host) r.glyphs (decode line) i →
        (∃ f : Text.Fault, (r.write host env d (some buffer) s).result = .error (.own f.exception) ∧
            (f.exception.isA .overflow = true ∨ f.exception.isA .memory = true)) ∧
          (r.write host env d (some buffer) s).stream.content =
            s.content ++ (header ++ "\n") ++ sourceRow d.position (decode line) ++
              gutter d.position) ∧
      (r.width = none → Cells.AsciiWidth host.wcwidth →
        Cells.ofText (Cells.display host.wcwidth)
            (Text.ofNat d.position.line ++ "| " ++ (decode line).take i) =
          Cells.ofText (Cells.display host.wcwidth)
            (gutter d.position ++ Marker.gap (r.widthOn host) (decode line) i)) := by
  have hshown := excerpt_of_rune hbuffer hline hcolumn
  refine ⟨d.plain, Diagnostic.toText_of_writable (writable_of_shown hshown),
    write_of_drawable env hpainter hs hbuffer hline hcolumn,
    write_of_not_drawable env hpainter hs hbuffer hline hcolumn, fun hwidth hascii => ?_⟩
  rw [widthOn, hwidth]
  exact display_rows hascii d.position (decode line) i

/-- A wide rune stands before the column, and a byte that is no text at it. -/
theorem write_aligned_wide :
    let r : Reporter := { painter := some { enabled := false } }
    let d : Diagnostic := ⟨"m", "a.yml", ⟨1, 5, by decide, by decide⟩, "k"⟩
    let line : Bytes := [0x78, 0xE6, 0x97, 0xA5, 0xFF, 0x79]
    let o := r.write .usual {} d (some (.bytes line (by decide))) {}
    o.result = .ok () ∧ o.stream.content = ("a.yml:1:5: m [k]\n1| x日�y\n |    ^~\n" : Text) ∧
      Cells.ofText (Cells.display Cells.tabled) ("1| x日" : Text) =
        Cells.ofText (Cells.display Cells.tabled) (" |    " : Text) := by
  intro r d line o
  have htext : decode line = "x日�y" := by cbv
  have hline : Source.line? line 1 = some line := by decide
  have hcolumn : 5 - 1 = span ((runes line).take 2) := by cbv
  obtain ⟨header, hheader, hdrawn, -, hcells⟩ := write_aligned (r := r) (d := d) (s := {}) (i := 2)
    .usual {} rfl rfl (.bytes line (by decide)) hline hcolumn
  rw [htext] at hdrawn hcells
  have hbefore : Cells.ofText (Cells.display Cells.tabled) (("x日�y" : Text).take 2) = 3 := by
    decide +kernel
  have hrun : Cells.ofText (Cells.display Cells.tabled) (Marker.run "x日�y" 2) = 2 := by
    decide +kernel
  have hroom : Machine.usual.HasRoom 6 := Machine.hasRoom_usual (by decide)
  have hdrawable : Marker.Drawable .usual (Cells.display Cells.tabled) {} "x日�y" 2 := by
    rw [Marker.Drawable, hbefore, hrun]
    exact Marker.draws_of_hasRoom hroom (g := 3) (k := 2) (by decide) (by decide) (by decide)
      (by decide) (by decide) (by decide)
  obtain ⟨hok, hcontent⟩ := hdrawn hdrawable
  obtain ⟨-, rfl⟩ := Diagnostic.toText_eq_ok_iff.1 hheader
  have hfront : Text.ofNat 1 ++ "| " ++ ("x日�y" : Text).take 2 = ("1| x日" : Text) := by
    decide +kernel
  have hgap : gutter d.position ++ Marker.gap (Cells.display Cells.tabled) "x日�y" 2 =
      (" |    " : Text) := by
    rw [Marker.gap, hbefore]
    decide +kernel
  have hstart := hcells rfl Cells.asciiWidth_tabled
  rw [show r.widthOn .usual = Cells.display Cells.tabled from rfl, hgap] at hstart
  rw [← hfront]
  exact ⟨hok, hcontent.trans (by decide +kernel), hstart⟩

/-- Not every report has all its rows, on no host: a width can be too low for a repetition. And a
gap can be too wide for the memory of a machine. -/
theorem not_forall_write_rows :
    (∀ host : Host, ¬ ∀ (r : Reporter) (env : Environment) (d : Diagnostic) (buffer : Buffer)
      (data line : Bytes) (s : Stream) (i : Nat),
      r.painter = some { enabled := false } → s.Sound → buffer.Holds data →
      Source.line? data d.position.line = some line →
      d.position.column - 1 = span ((runes line).take i) →
      (r.write host env d (some buffer) s).stream.content =
        s.content ++ (d.plain ++ "\n") ++ sourceRow d.position (decode line) ++
          (gutter d.position ++ Marker.under (r.widthOn host) r.glyphs (decode line) i ++ "\n")) ∧
      let r : Reporter :=
        { painter := some { enabled := false }, width := some fun _ => 0x4000000000000000 }
      let d : Diagnostic := ⟨"m", "a.yml", ⟨1, 2, by decide, by decide⟩, "k"⟩
      let o := r.write .usual {} d (some (.bytes [0x61] (by decide))) {}
      o.result = .error (.own (.of .memory "")) ∧
        o.stream.content = ("a.yml:1:2: m [k]\n1| a\n | " : Text) := by
  have hline : Source.line? [0x61] 1 = some [0x61] := by decide
  have hcolumn : 2 - 1 = span ((runes [0x61]).take 1) := by cbv
  let d : Diagnostic := ⟨"m", "a.yml", ⟨1, 2, by decide, by decide⟩, "k"⟩
  obtain ⟨hresult, hcontent⟩ := write_usual_wide (d := d) rfl rfl
  refine ⟨fun host hall => ?_, hresult, hcontent.trans (by decide +kernel)⟩
  have hrows := hall (unpainted fun _ => -0x8000000000000001) {} d _ _ _ {} 1 rfl rfl
    (.bytes [0x61] (by decide)) hline hcolumn
  obtain ⟨-, hcut⟩ := write_narrow (d := d) host rfl rfl
  -- the line feed behind the marker is missing, whatever the marker is
  rw [hcut, decode_letter] at hrows
  have hlength := congrArg List.length hrows
  have hfeed : 0 < ("\n" : Text).length := by decide
  simp only [List.length_append] at hlength
  omega

end Reporter

end CaretReport
