import CaretReport.Report.Reporter
import CaretReport.Proofs.Diagnostic.Fields
import CaretReport.Proofs.Source.Lines
import CaretReport.Proofs.Stream.Limit

/-!
# Scripts of reports

If the numbers of a diagnostic can be written, its report has a header of eight pieces, and behind
them, if a line is shown, three for that line and two for the marker (`script_shape`). Otherwise the
report ends in front of the number that cannot be written. A line that is shown is counted and
reached by numbers that every machine can write (`writable_of_shown`).

Neither the pieces nor the end depend on the painter, on the stream or on the environment. Texts are
written up to the first failure, and only if none fails the report ends as its script says:
`Reporter.perform_of_refuses`, `Reporter.perform_of_taken`.
-/

namespace CaretReport

namespace Report

/-- The pieces of a header whose numbers can be written. -/
def headerPieces (d : Diagnostic) : List Piece :=
  [.painted .path d.path, .painted .muted ":", .plain (Text.ofNat d.position.line),
    .painted .muted ":", .plain (Text.ofNat d.position.column), .painted .muted ": ",
    .painted .emphasis d.message, .painted .muted (" [" ++ d.kind ++ "]\n")]

/-- The pieces of a snippet in front of the marker. -/
def snippetPieces (p : Position) (line : Bytes) : List Piece :=
  [.painted .muted (Text.ofNat p.line ++ "| "), .plain (Utf8.decode line ++ "\n"),
    .painted .muted (Text.spaces (Text.ofNat p.line).length ++ "| ")]

def markerPieces (t : Text) : List Piece := [.painted .success t, .plain "\n"]

variable {m : Machine} {width : Width} {glyphs : Glyphs} {d : Diagnostic} {source : Option Buffer}
  {line : Bytes}

/-! ### The header -/

theorem header_of_writable (h : d.Writable m) : header m d = ⟨headerPieces d, .ok ()⟩ := by
  unfold header
  rw [Machine.decimal_of_writes h.1, Machine.decimal_of_writes h.2]
  rfl

/-- A header ends in front of the first number that cannot be written, with the exception that
writing the text of the diagnostic raises. -/
theorem header_of_not_writable (h : ¬ d.Writable m) :
    ∃ k limit, (k = 2 ∨ k = 4) ∧ d.toText m = .error (.tooManyDigits limit) ∧
      header m d = ⟨(headerPieces d).take k, .error (.tooManyDigits limit)⟩ := by
  by_cases hline : m.Writes d.position.line
  · have hcolumn : ¬ m.Writes d.position.column := fun hcolumn => h ⟨hline, hcolumn⟩
    obtain ⟨limit, hlimit⟩ := Machine.decimal_of_not_writes hcolumn
    refine ⟨4, limit, .inr rfl, ?_, ?_⟩
    · unfold Diagnostic.toText
      rw [Machine.decimal_of_writes hline, hlimit]
      rfl
    · unfold header
      rw [Machine.decimal_of_writes hline, hlimit]
      rfl
  · obtain ⟨limit, hlimit⟩ := Machine.decimal_of_not_writes hline
    refine ⟨2, limit, .inl rfl, ?_, ?_⟩
    · unfold Diagnostic.toText
      rw [hlimit]
      rfl
    · unfold header
      rw [hlimit]
      rfl

/-! ### The line that is shown -/

theorem length_utf8_le (t : Text) : t.utf8.length ≤ 4 * t.length := by
  induction t with
  | nil => exact Nat.le_refl 0
  | cons c t ih =>
    have hpoint : c.utf8.length ≤ 4 := by
      unfold CodePoint.utf8
      dsimp only
      split
      · exact Nat.le_add_left 1 3
      split
      · exact Nat.le_add_left 2 2
      split
      · exact Nat.le_add_left 3 1
      · exact Nat.le_refl 4
    rw [Text.utf8, List.flatMap_cons, List.length_append, List.length_cons]
    rw [Text.utf8] at ih
    omega

theorem length_lt_of_encode {buffer : Buffer} {bytes : Bytes} (h : buffer.encode = .ok bytes) :
    bytes.length < 0x20000000000000000 := by
  cases buffer with
  | bytes b hb =>
    cases h
    have hlt := isMachineInt_natCast_iff.1 hb
    omega
  | text t ht =>
    have hlt := isMachineInt_natCast_iff.1 ht
    have hle := length_utf8_le t
    simp only [Buffer.encode, Text.encode] at h
    split at h
    · cases h
    · cases h
      omega

theorem writable_of_shown (h : excerpt d source = .shown line) : d.Writable m := by
  unfold excerpt at h
  split at h
  · cases h
  split at h
  · cases h
  split at h
  · cases h
  next bytes hencode =>
  split at h
  · cases h
  next line' hline =>
  unfold lineAt at hline
  split at hline
  · cases hline
  next hline' =>
  split at hline
  · cases hline
  next hlong =>
  cases hline
  have hlt := length_lt_of_encode hencode
  obtain ⟨hnumber, hlength⟩ := Source.bounds_of_line? hline'
  exact ⟨Machine.writes_of_lt (by omega), Machine.writes_of_lt (by omega)⟩

/-! ### Whole reports -/

theorem snippet_eq (h : d.Writable m) : snippet m width glyphs d.position line =
    match marker m width glyphs d.position line with
    | .ok t => ⟨snippetPieces d.position line ++ markerPieces t, .ok ()⟩
    | .error f => ⟨snippetPieces d.position line, .error f.exception⟩ := by
  unfold snippet
  rw [Machine.decimal_of_writes h.1]
  cases marker m width glyphs d.position line <;> rfl

theorem script_of_not_writable (h : ¬ d.Writable m) (width : Width) (glyphs : Glyphs)
    (source : Option Buffer) :
    ∃ k limit, (k = 2 ∨ k = 4) ∧ d.toText m = .error (.tooManyDigits limit) ∧
      script m width glyphs d source =
        ⟨(headerPieces d).take k, .error (.tooManyDigits limit)⟩ := by
  obtain ⟨k, limit, hk, htext, hheader⟩ := header_of_not_writable h
  exact ⟨k, limit, hk, htext, by rw [script, hheader]; rfl⟩

theorem script_of_absent (h : d.Writable m) (hexcerpt : excerpt d source = .absent) :
    script m width glyphs d source = ⟨headerPieces d, .ok []⟩ := by
  rw [script, header_of_writable h, hexcerpt]
  rfl

theorem script_of_unencodable (h : d.Writable m) {e : Unencodable}
    (hexcerpt : excerpt d source = .unencodable e) :
    script m width glyphs d source = ⟨headerPieces d, .error e.exception⟩ := by
  rw [script, header_of_writable h, hexcerpt]
  rfl

/-- What is logged about a snippet that is left out, if the diagnostic has a text. -/
def Omission.record (d : Diagnostic) (o : Omission) : LogRecord :=
  ⟨.debug, "no snippet for " ++ d.plain ++ ": " ++ match o with
    | .noLine => "source has fewer than " ++ Text.ofNat d.position.line ++ " lines"
    | .shortLine n =>
      "line " ++ Text.ofNat d.position.line ++ " is only " ++ Text.ofNat n ++ " bytes long"⟩

theorem script_of_omitted (h : d.Writable m) {o : Omission}
    (hexcerpt : excerpt d source = .omitted o) :
    script m width glyphs d source = ⟨headerPieces d, .ok [o.record d]⟩ := by
  have hlog : o.log m d = .ok (o.record d) := by
    unfold Omission.log
    rw [Diagnostic.toText_of_writable h, Machine.decimal_of_writes h.1]
    rfl
  rw [script, header_of_writable h, hexcerpt]
  dsimp only
  rw [hlog]
  rfl

theorem script_of_shown (hshown : excerpt d source = .shown line) {t : Text}
    (ht : marker m width glyphs d.position line = .ok t) :
    script m width glyphs d source =
      ⟨headerPieces d ++ (snippetPieces d.position line ++ markerPieces t), .ok []⟩ := by
  have h : d.Writable m := writable_of_shown hshown
  rw [script, header_of_writable h, hshown]
  dsimp only
  rw [snippet_eq h, ht]
  rfl

theorem script_of_shown_error (hshown : excerpt d source = .shown line) {f : Text.Fault}
    (hf : marker m width glyphs d.position line = .error f) :
    script m width glyphs d source =
      ⟨headerPieces d ++ snippetPieces d.position line, .error f.exception⟩ := by
  have h : d.Writable m := writable_of_shown hshown
  rw [script, header_of_writable h, hshown]
  dsimp only
  rw [snippet_eq h, hf]
  rfl

/-- The ways that a report can go. -/
inductive Shape (m : Machine) (width : Width) (glyphs : Glyphs) (d : Diagnostic)
    (source : Option Buffer) : Script (List LogRecord) → Prop
  | unwritable {k limit : Nat} (h : ¬ d.Writable m) (hk : k = 2 ∨ k = 4)
    (htext : d.toText m = .error (.tooManyDigits limit)) :
    Shape m width glyphs d source ⟨(headerPieces d).take k, .error (.tooManyDigits limit)⟩
  | header {result : Except Exception (List LogRecord)} (h : d.Writable m)
    (hshown : ∀ line, excerpt d source ≠ .shown line)
    (hresult : ∀ e, result = .error e → e.isTolerated = true) :
    Shape m width glyphs d source ⟨headerPieces d, result⟩
  | undrawable {line : Bytes} {f : Text.Fault} (h : excerpt d source = .shown line)
    (hf : marker m width glyphs d.position line = .error f) :
    Shape m width glyphs d source
      ⟨headerPieces d ++ snippetPieces d.position line, .error f.exception⟩
  | full {line : Bytes} {t : Text} (h : excerpt d source = .shown line)
    (ht : marker m width glyphs d.position line = .ok t) :
    Shape m width glyphs d source
      ⟨headerPieces d ++ (snippetPieces d.position line ++ markerPieces t), .ok []⟩

theorem script_shape (m : Machine) (width : Width) (glyphs : Glyphs) (d : Diagnostic)
    (source : Option Buffer) : Shape m width glyphs d source (script m width glyphs d source) := by
  by_cases h : d.Writable m
  · rcases hexcerpt : excerpt d source with _ | e | o | line
    · rw [script_of_absent h hexcerpt]
      exact .header h (by simp [hexcerpt]) (fun e he => by cases he)
    · rw [script_of_unencodable h hexcerpt]
      exact .header h (by simp [hexcerpt]) (fun _ he => by cases he; rfl)
    · rw [script_of_omitted h hexcerpt]
      exact .header h (by simp [hexcerpt]) (fun e he => by cases he)
    · rcases hmarker : marker m width glyphs d.position line with f | t
      · rw [script_of_shown_error hexcerpt hmarker]
        exact .undrawable hexcerpt hmarker
      · rw [script_of_shown hexcerpt hmarker]
        exact .full hexcerpt hmarker
  · obtain ⟨k, limit, hk, htext, hscript⟩ := script_of_not_writable h width glyphs source
    rw [hscript]
    exact .unwritable h hk htext

/-- Every report starts with the path and a colon in paint. -/
theorem exists_script_pieces (m : Machine) (width : Width) (glyphs : Glyphs) (d : Diagnostic)
    (source : Option Buffer) : ∃ rest, (script m width glyphs d source).pieces =
      .painted .path d.path :: .painted .muted ":" :: rest := by
  have hshape := script_shape m width glyphs d source
  generalize script m width glyphs d source = sc at hshape
  cases hshape with
  | unwritable _ hk => rcases hk with rfl | rfl <;> exact ⟨_, rfl⟩
  | header => exact ⟨_, rfl⟩
  | undrawable => exact ⟨_, rfl⟩
  | full => exact ⟨_, rfl⟩

end Report

namespace Reporter

open Report

variable {m : Machine} {r : Reporter} {host : Host} {env : Environment} {d : Diagnostic}
  {source : Option Buffer} {s : Stream} {p : Painter} {render : Piece → Text}
  {sc : Script (List LogRecord)}

theorem write_eq (hp : r.painterOn env s = .ok p) :
    r.write host env d source s =
      perform host.machine d (Piece.render host.colored env p) (r.script host d source) s := by
  rw [write, hp]

theorem fail_stream (m : Machine) (d : Diagnostic) (f : ActionFault) (s : Stream) :
    (fail m d f s).stream = s := by
  unfold fail
  split
  · split <;> rfl
  · rfl

theorem conclude_stream (m : Machine) (d : Diagnostic) (s : Stream)
    (result : Except Exception (List LogRecord)) : (conclude m d s result).stream = s := by
  cases result with
  | ok logs => rfl
  | error e => exact fail_stream m d (.own e) s

/-- The stream has no part in how a report ends. -/
theorem fail_anywhere (m : Machine) (d : Diagnostic) (f : ActionFault) (s s' : Stream) :
    fail m d f s = { fail m d f s' with stream := s } := by
  unfold fail
  split
  · split <;> rfl
  · rfl

theorem conclude_anywhere (m : Machine) (d : Diagnostic) (s s' : Stream)
    (result : Except Exception (List LogRecord)) :
    conclude m d s result = { conclude m d s' result with stream := s } := by
  cases result with
  | ok logs => rfl
  | error e => exact fail_anywhere m d (.own e) s s'

theorem perform_stream (m : Machine) (d : Diagnostic) (render : Piece → Text)
    (sc : Script (List LogRecord)) (s : Stream) :
    (perform m d render sc s).stream = s.offered (sc.pieces.map render) := by
  rw [← Stream.writeAll_snd, perform]
  rcases s.writeAll (sc.pieces.map render) with ⟨e | ⟨⟩, s⟩
  · exact fail_stream m d (.stream e) s
  · exact conclude_stream m d s sc.result

theorem perform_of_taken (h : s.taken (sc.pieces.map render) = sc.pieces.map render) :
    perform m d render sc s = conclude m d (s.offered (sc.pieces.map render)) sc.result := by
  have hall : s.writeAll (sc.pieces.map render) = (.ok (), s.offered (sc.pieces.map render)) :=
    Prod.ext (Stream.writeAll_eq_ok_iff.2 h) (Stream.writeAll_snd ..)
  rw [perform, hall]

theorem perform_of_refuses {e : Exception} (h : s.Refuses sc.pieces.length e) :
    perform m d render sc s = fail m d (.stream e) (s.offered (sc.pieces.map render)) := by
  have hlen : (sc.pieces.map render).length = sc.pieces.length := List.length_map render
  rw [← hlen, ← Stream.writeAll_eq_error_iff] at h
  have hall : s.writeAll (sc.pieces.map render) = (.error e, s.offered (sc.pieces.map render)) :=
    Prod.ext h (Stream.writeAll_snd ..)
  rw [perform, hall]

/-- What is logged about a report that could not be written, if the diagnostic has a text. -/
def warning (d : Diagnostic) (e : Exception) : LogRecord :=
  ⟨.warning, "failed to write diagnostic " ++ d.plain ++ ": " ++ e.message⟩

theorem fail_of_not_tolerated {f : ActionFault} (h : f.exception.isTolerated = false) (m : Machine)
    (d : Diagnostic) (s : Stream) : fail m d f s = ⟨.error f, s, []⟩ := by
  rw [fail, if_neg (by rw [h]; exact Bool.false_ne_true)]

theorem fail_of_writable {f : ActionFault} (hf : f.exception.isTolerated = true)
    (h : d.Writable m) (s : Stream) : fail m d f s = ⟨.ok (), s, [warning d f.exception]⟩ := by
  unfold fail failureLog
  rw [if_pos hf, Diagnostic.toText_of_writable h]
  rfl

/-- The log cannot name the diagnostic, and the exception of that takes the place of the other. -/
theorem fail_of_not_writable {f : ActionFault} (hf : f.exception.isTolerated = true)
    {e : Exception} (htext : d.toText m = .error e) (s : Stream) :
    fail m d f s = ⟨.error (.own e), s, []⟩ := by
  unfold fail failureLog
  rw [if_pos hf, htext]
  rfl

/-! ### Streams that take every write -/

/-- On a stream that takes every write, the whole script is written. -/
theorem write_of_sound (hp : r.painterOn env s = .ok p) (hs : s.Sound) :
    r.write host env d source s =
      conclude host.machine d
        (s.offered ((r.script host d source).pieces.map (Piece.render host.colored env p)))
        (r.script host d source).result := by
  rw [write_eq hp, perform_of_taken (hs.taken_eq _)]

theorem stream_of_sound (hp : r.painterOn env s = .ok p) (hs : s.Sound) :
    (r.write host env d source s).stream = { s with
      attempts := s.attempts + (r.script host d source).pieces.length
      written := s.written ++
        (r.script host d source).pieces.map (Piece.render host.colored env p) } := by
  rw [write_of_sound hp hs, conclude_stream, hs.offered_eq, List.length_map]

theorem added_of_sound (hp : r.painterOn env s = .ok p) (hs : s.Sound) :
    (r.write host env d source s).added s =
      ((r.script host d source).pieces.map (Piece.render host.colored env p)).flatten := by
  rw [Outcome.added, stream_of_sound hp hs, List.drop_left]

theorem attempts_of_sound (hp : r.painterOn env s = .ok p) (hs : s.Sound) :
    (r.write host env d source s).attempts s = (r.script host d source).pieces.length := by
  rw [Outcome.attempts, stream_of_sound hp hs, Nat.add_sub_cancel_left]

end Reporter

end CaretReport
