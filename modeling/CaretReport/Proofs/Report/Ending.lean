import CaretReport.Proofs.Report.Delivery
import CaretReport.Proofs.Report.Rows

/-!
# How a report ends, and what it logs

A report on a stream that can be asked for its terminal ends at a refused write, or, if none is
refused, as its script says; `Report.Unhindered` lists how that is, by what the source holds. Either
way it logs at most once, and never if the diagnostic has no text that the log could name it by:
`Reporter.write_accounting`.
-/

namespace CaretReport

theorem Buffer.holds_of_encode {buffer : Buffer} {data : Bytes} (h : buffer.encode = .ok data) :
    buffer.Holds data := by
  cases buffer with
  | bytes b hb =>
    cases h
    exact .bytes data hb
  | text t ht =>
    rw [Buffer.encode, Text.encode] at h
    split at h
    · cases h
    · next hnone =>
      cases h
      exact .text (Text.surrogates?_eq_none_iff.1 hnone)

namespace Report

open Source

variable {m : Machine} {width : Width} {glyphs : Glyphs} {d : Diagnostic} {buffer : Buffer}
  {source : Option Buffer} {data line : Bytes} {e : Unencodable} {o : Omission}

/-! ### Excerpts -/

theorem excerpt_of_unencodable (he : buffer.encode = .error e) :
    excerpt d (some buffer) = .unencodable e := by
  have hempty : ¬ buffer.isEmpty = true := by
    intro h
    cases buffer with
    | bytes b => cases he
    | text t =>
      rw [Buffer.isEmpty, List.isEmpty_iff] at h
      subst h
      cases he
  simp only [excerpt, hempty, he, ↓reduceIte, Bool.false_eq_true]

theorem excerpt_of_nil (hdata : buffer.encode = .ok []) : excerpt d (some buffer) = .absent := by
  have hempty : buffer.isEmpty = true := by
    have hbuffer := Buffer.holds_of_encode hdata
    generalize hnil : ([] : Bytes) = data at hbuffer
    cases hbuffer with
    | bytes => rw [Buffer.isEmpty, ← hnil]; rfl
    | @text t _ h =>
      rw [Buffer.isEmpty, ← Utf8.decode_utf8 h, ← hnil, Utf8.decode_nil]
      rfl
  simp only [excerpt, hempty, ↓reduceIte]

theorem excerpt_of_omitted (hdata : buffer.encode = .ok data) (hne : data ≠ [])
    (ho : lineAt d.position data = .error o) : excerpt d (some buffer) = .omitted o := by
  have hempty : ¬ buffer.isEmpty = true := mt (Buffer.holds_of_encode hdata).eq_nil hne
  simp only [excerpt, hempty, hdata, ho, ↓reduceIte, Bool.false_eq_true]

theorem lineAt_of_missing (h : lineCount data < d.position.line) :
    lineAt d.position data = .error .noLine := by
  rw [lineAt, line?_eq_none h]

theorem lineAt_of_short (hline : line? data d.position.line = some line)
    (hshort : line.length < d.position.column - 1) :
    lineAt d.position data = .error (.shortLine line.length) := by
  simp only [lineAt, hline, hshort, ↓reduceIte]

theorem ne_nil_of_line? (hline : line? data d.position.line = some line) : data ≠ [] := by
  rintro rfl
  have hnone : line? [] d.position.line = none := line?_eq_none d.position.line_pos
  rw [hline] at hnone
  cases hnone

/-! ### Reports without a refused write -/

/-- How the report on a diagnostic with the text `text` goes if no write is refused: which pieces it
writes, what it comes to, and what it logs. -/
structure Unhindered (m : Machine) (width : Width) (glyphs : Glyphs) (d : Diagnostic)
    (source : Option Buffer) (text : Text) (pieces : List Piece) (result : Except ActionFault Unit)
    (logs : List LogRecord) : Prop where
  absent : (∀ buffer ∈ source, buffer.encode = .ok []) →
    pieces = headerPieces d ∧ result = .ok () ∧ logs = []
  unencodable : ∀ buffer e, source = some buffer → buffer.encode = .error e →
    pieces = headerPieces d ∧ result = .ok () ∧
      logs = [⟨.warning, "failed to write diagnostic " ++ text ++ ": " ++ e.message⟩]
  missing : ∀ buffer data, source = some buffer → buffer.encode = .ok data → data ≠ [] →
    lineCount data < d.position.line →
    pieces = headerPieces d ∧ result = .ok () ∧
      logs = [⟨.debug, "no snippet for " ++ text ++ ": " ++
        ("source has fewer than " ++ Text.ofNat d.position.line ++ " lines")⟩]
  short : ∀ buffer data line, source = some buffer → buffer.encode = .ok data →
    line? data d.position.line = some line → line.length < d.position.column - 1 →
    pieces = headerPieces d ∧ result = .ok () ∧
      logs = [⟨.debug, "no snippet for " ++ text ++ ": " ++
        ("line " ++ Text.ofNat d.position.line ++ " is only " ++ Text.ofNat line.length ++
          " bytes long")⟩]
  drawn : ∀ buffer data line, source = some buffer → buffer.encode = .ok data →
    line? data d.position.line = some line → d.position.column - 1 ≤ line.length →
    Marker.DrawsAt m width glyphs line (d.position.column - 1) →
    pieces.length = 13 ∧ result = .ok () ∧ logs = []
  /-- Three of the five writes of the snippet come before the marker. -/
  undrawn : ∀ buffer data line, source = some buffer → buffer.encode = .ok data →
    line? data d.position.line = some line → d.position.column - 1 ≤ line.length →
    ¬ Marker.DrawsAt m width glyphs line (d.position.column - 1) →
    pieces.length = 11 ∧ logs = [] ∧ ∃ f : Text.Fault, result = .error (.own f.exception) ∧
      (f.exception.isA .overflow = true ∨ f.exception.isA .memory = true)

/-- A script has at most one log record for its end. -/
theorem length_script_logs_le {logs : List LogRecord} (width : Width) (glyphs : Glyphs)
    (h : (script m width glyphs d source).result = .ok logs) : logs.length ≤ 1 := by
  by_cases hwritable : d.Writable m
  · rcases hexcerpt : excerpt d source with _ | e | o | line
    · rw [script_of_absent hwritable hexcerpt] at h
      cases h
      exact Nat.zero_le 1
    · rw [script_of_unencodable hwritable hexcerpt] at h
      cases h
    · rw [script_of_omitted hwritable hexcerpt] at h
      cases h
      exact Nat.le_refl 1
    · rcases hmarker : marker m width glyphs d.position line with f | t
      · rw [script_of_shown_error hexcerpt hmarker] at h
        cases h
      · rw [script_of_shown hexcerpt hmarker] at h
        cases h
        exact Nat.zero_le 1
  · obtain ⟨k, limit, -, -, hscript⟩ := script_of_not_writable hwritable width glyphs source
    rw [hscript] at h
    cases h

end Report

namespace Reporter

open Report Source

variable {m : Machine} {r : Reporter} {host : Host} {env : Environment} {d : Diagnostic}
  {source : Option Buffer} {s : Stream} {p : Painter} {render : Piece → Text}
  {sc : Script (List LogRecord)}

-- the excerpt of a source decides its script, and each case names the excerpt
theorem conclude_unhindered (h : d.Writable m) (width : Width) (glyphs : Glyphs)
    (source : Option Buffer) (s : Stream) :
    Unhindered m width glyphs d source d.plain (Report.script m width glyphs d source).pieces
      (conclude m d s (Report.script m width glyphs d source).result).result
      (conclude m d s (Report.script m width glyphs d source).result).logs where
  absent hsource := by
    have hexcerpt : excerpt d source = .absent := by
      cases source with
      | none => rfl
      | some buffer => exact excerpt_of_nil (hsource buffer rfl)
    rw [script_of_absent h hexcerpt]
    exact ⟨rfl, rfl, rfl⟩
  unencodable := by
    rintro buffer e rfl he
    rw [script_of_unencodable h (excerpt_of_unencodable he), conclude, fail_of_writable rfl h]
    exact ⟨rfl, rfl, rfl⟩
  missing := by
    rintro buffer data rfl hdata hne hline
    rw [script_of_omitted h (excerpt_of_omitted hdata hne (lineAt_of_missing hline))]
    exact ⟨rfl, rfl, rfl⟩
  short := by
    rintro buffer data line rfl hdata hline hshort
    have hne := ne_nil_of_line? hline
    rw [script_of_omitted h (excerpt_of_omitted hdata hne (lineAt_of_short hline hshort))]
    exact ⟨rfl, rfl, rfl⟩
  drawn := by
    rintro buffer data line rfl hdata hline hcolumn hdraw
    have hbuffer := Buffer.holds_of_encode hdata
    obtain ⟨t, ht⟩ := Marker.exists_atOffset_iff.2 hdraw
    rw [script_of_shown (excerpt_of_line hbuffer hline hcolumn) ht]
    exact ⟨rfl, rfl, rfl⟩
  undrawn := by
    rintro buffer data line rfl hdata hline hcolumn hdraw
    have hbuffer := Buffer.holds_of_encode hdata
    obtain ⟨f, hf⟩ := Marker.atOffset_of_not_drawsAt hdraw
    rw [script_of_shown_error (excerpt_of_line hbuffer hline hcolumn) hf, conclude,
      fail_of_not_tolerated (f := .own f.exception) f.isTolerated_exception]
    exact ⟨rfl, rfl, f, rfl, f.isA_overflow_or_memory⟩

theorem perform_of_takes (h : s.Takes sc.pieces.length) :
    perform m d render sc s =
      ⟨(conclude m d s sc.result).result, { s with
        attempts := s.attempts + sc.pieces.length
        written := s.written ++ sc.pieces.map render }, (conclude m d s sc.result).logs⟩ := by
  have hlen : (sc.pieces.map render).length = sc.pieces.length := List.length_map render
  rw [← hlen] at h ⊢
  rw [perform_of_taken h.taken_eq, Stream.offered_of_taken h.taken_eq]
  exact conclude_anywhere ..

theorem length_logs_fail_le (m : Machine) (d : Diagnostic) (f : ActionFault) (s : Stream) :
    (fail m d f s).logs.length ≤ 1 := by
  unfold fail
  split
  · split
    · exact Nat.le_refl 1
    · exact Nat.zero_le 1
  · exact Nat.zero_le 1

theorem length_logs_conclude_le {result : Except Exception (List LogRecord)}
    (h : ∀ logs, result = .ok logs → logs.length ≤ 1) (s : Stream) :
    (conclude m d s result).logs.length ≤ 1 := by
  cases result with
  | ok logs => exact h logs rfl
  | error e => exact length_logs_fail_le m d (.own e) s

theorem length_logs_write_le (hp : r.painterOn env s = .ok p) :
    (r.write host env d source s).logs.length ≤ 1 := by
  rw [write_eq hp, perform]
  rcases s.writeAll _ with ⟨e | ⟨⟩, s⟩
  · exact length_logs_fail_le host.machine d (.stream e) s
  · exact length_logs_conclude_le (fun _ h => length_script_logs_le _ _ h) s

/-- A report on a stream that says, or fails in a tolerated way to say, whether it is a terminal. If
none of its writes is refused, it goes as the source tells. A refused write ends it: a tolerated
fault is logged and nothing is raised, any other fault is raised and nothing is logged. A diagnostic
without a text cannot be logged: then what writing the text raises is raised instead. -/
theorem write_accounting (host : Host) (env : Environment) (r : Reporter) (d : Diagnostic)
    (source : Option Buffer) (hterminal : ∀ e, s.terminal = .trouble e → e.isTolerated = true) :
    ∃ pieces result logs p, r.painterOn env s = .ok p ∧
      (r.write host env d source s).logs.length ≤ 1 ∧
      (s.Takes pieces.length → r.write host env d source s = ⟨result, { s with
        attempts := s.attempts + pieces.length
        written := s.written ++ pieces.map (Piece.render host.colored env p) }, logs⟩) ∧
      (∀ e, s.Refuses pieces.length e → e.isTolerated = false →
        (r.write host env d source s).result = .error (.stream e) ∧
          (r.write host env d source s).logs = []) ∧
      (∀ text, d.toText host.machine = .ok text →
        Unhindered host.machine (r.widthOn host) r.glyphs d source text pieces result logs ∧
          ∀ e, s.Refuses pieces.length e → e.isTolerated = true →
            (r.write host env d source s).result = .ok () ∧ (r.write host env d source s).logs =
              [⟨.warning, "failed to write diagnostic " ++ text ++ ": " ++ e.message⟩]) ∧
      ∀ f, d.toText host.machine = .error f →
        ((pieces.length = 2 ∨ pieces.length = 4) ∧ result = .error (.own f) ∧ logs = []) ∧
          ∀ e, s.Refuses pieces.length e → e.isTolerated = true →
            (r.write host env d source s).result = .error (.own f) ∧
              (r.write host env d source s).logs = [] := by
  obtain ⟨p, hp⟩ := exists_painterOn r env hterminal
  refine ⟨(r.script host d source).pieces,
    (conclude host.machine d s (r.script host d source).result).result,
    (conclude host.machine d s (r.script host d source).result).logs, p, hp,
    length_logs_write_le hp, fun h => (write_eq hp).trans (perform_of_takes h), fun e he htol => ?_,
    fun text htext => ⟨?_, fun e he htol => ?_⟩, fun f hf => ⟨?_, fun e he htol => ?_⟩⟩
  · rw [write_eq hp, perform_of_refuses he, fail_of_not_tolerated (f := .stream e) htol]
    exact ⟨rfl, rfl⟩
  · obtain ⟨hwritable, rfl⟩ := Diagnostic.toText_eq_ok_iff.1 htext
    exact conclude_unhindered hwritable ..
  · obtain ⟨hwritable, rfl⟩ := Diagnostic.toText_eq_ok_iff.1 htext
    rw [write_eq hp, perform_of_refuses he, fail_of_writable (f := .stream e) htol hwritable]
    exact ⟨rfl, rfl⟩
  · have hnot : ¬ d.Writable host.machine := fun h => by
      rw [Diagnostic.toText_of_writable h] at hf
      cases hf
    obtain ⟨k, limit, hk, htext, hscript⟩ :=
      script_of_not_writable hnot (r.widthOn host) r.glyphs source
    rw [htext] at hf
    cases hf
    rw [script, hscript, conclude, fail_of_not_writable rfl htext]
    rcases hk with rfl | rfl
    · exact ⟨.inl rfl, rfl, rfl⟩
    · exact ⟨.inr rfl, rfl, rfl⟩
  · rw [write_eq hp, perform_of_refuses he, fail_of_not_writable (f := .stream e) htol hf]
    exact ⟨rfl, rfl⟩

/-- The third write of the header fails, before it matters that the source cannot be encoded. -/
theorem write_accounting_cut_header :
    let d : Diagnostic := ⟨"m", "a.yml", ⟨1, 1, by decide, by decide⟩, "k"⟩
    let source : Buffer := .text [⟨0xD800, by decide⟩] (by decide)
    let s : Stream :=
      { terminal := .trouble (.of .value "detached"), failsAt := some 3,
        fault := .of .brokenPipe "boom" }
    let o := write {} .usual {} d (some source) s
    o.result = .ok () ∧
      o.logs = [⟨.warning, "failed to write diagnostic a.yml:1:1: m [k]: boom"⟩] := by
  intro d source s o
  have hterminal : ∀ e, s.terminal = .trouble e → e.isTolerated = true := by
    rintro e ⟨⟩
    rfl
  obtain ⟨pieces, result, logs, p, -, -, -, -, htext, -⟩ :=
    write_accounting (s := s) .usual {} {} d (some source) hterminal
  have hwritable : d.Writable Host.usual.machine :=
    ⟨Machine.writes_of_lt (by decide), Machine.writes_of_lt (by decide)⟩
  obtain ⟨hunhindered, htolerated⟩ := htext d.plain (Diagnostic.toText_of_writable hwritable)
  have hpieces := (hunhindered.unencodable source _ rfl rfl).1
  have hrefuses : s.Refuses pieces.length s.fault := ⟨2, by rw [hpieces]; decide, rfl⟩
  obtain ⟨hok, hlogs⟩ := htolerated _ hrefuses rfl
  exact ⟨hok, hlogs.trans (by decide +kernel)⟩

/-- Writes that are all taken and a source that can be encoded do not make a report return, on no
host: a width can be too low for a repetition. And it can be too high for the memory of a machine,
and a number too long to be written. -/
theorem not_forall_write_returns :
    (∀ host : Host, ¬ ∀ (r : Reporter) (env : Environment) (d : Diagnostic) (buffer : Buffer)
      (data : Bytes) (s : Stream), (∀ e, s.terminal = .trouble e → e.isTolerated = true) →
      s.Takes (r.script host d (some buffer)).pieces.length → buffer.encode = .ok data →
      (r.write host env d (some buffer) s).result = .ok ()) ∧
      (let r : Reporter :=
        { painter := some { enabled := false }, width := some fun _ => 0x4000000000000000 }
      let d : Diagnostic := ⟨"m", "a.yml", ⟨1, 2, by decide, by decide⟩, "k"⟩
      (r.write .usual {} d (some (.bytes [0x61] (by decide))) {}).result =
        .error (.own (.of .memory ""))) ∧
      ∀ d : Diagnostic, 4300 < (Text.ofNat d.position.line).length →
        ∃ e, e.isA .value = true ∧
          (write { painter := some { enabled := false } } .usual {} d none {}).result =
            .error (.own e) := by
  let two : Diagnostic := ⟨"m", "a.yml", ⟨1, 2, by decide, by decide⟩, "k"⟩
  refine ⟨fun host hall => ?_, (write_usual_wide (d := two) rfl rfl).1, fun d hd => ?_⟩
  · have htakes : ∀ n, Stream.Takes {} n := by
      rintro n f ⟨k, -, hk⟩
      cases hk
    have hok := hall (unpainted fun _ => -0x8000000000000001) {} two
      (.bytes [0x61] (by decide)) _ {} (fun e he => by cases he) (htakes _) rfl
    obtain ⟨⟨f, hfault⟩, -⟩ := write_narrow (d := two) host rfl rfl
    rw [hok] at hfault
    cases hfault
  · obtain ⟨e, -, he, hresult⟩ := write_usual_long hd
    exact ⟨e, he, hresult⟩

end Reporter

end CaretReport
