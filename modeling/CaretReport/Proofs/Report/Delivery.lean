import CaretReport.Proofs.Report.Switch
import CaretReport.Proofs.Source.Drawing
import CaretReport.Proofs.Stream.History

/-!
# What a report does to a stream

On a stream whose troubles are tolerated, a report is the list of texts that it would write to an
unused stream of the same kind (`Reporter.texts`): `write_stream` says what becomes of the stream if
they are offered to it, and `write_delivered` how many there are and how the report ends. A closed
stream need not get the painter of its open kin, but it takes no text either.
-/

namespace CaretReport

/-- An unused stream of the same kind that takes every write. -/
def Stream.kin (s : Stream) : Stream := { terminal := s.terminal }

namespace Report

/-- A report shows no line, or the machine can draw the marker of the line that it shows. -/
def Drawable (m : Machine) (width : Width) (glyphs : Glyphs) (d : Diagnostic)
    (source : Option Buffer) : Prop :=
  ∀ line, excerpt d source = .shown line →
    Marker.DrawsAt m width glyphs line (d.position.column - 1)

variable {m : Machine} {width : Width} {glyphs : Glyphs} {d : Diagnostic} {source : Option Buffer}

/-- A report that writes everything, and ends with an exception that is tolerated if with any. -/
theorem script_of_drawable (hwritable : d.Writable m) (h : Drawable m width glyphs d source) :
    (∀ e, (script m width glyphs d source).result = .error e → e.isTolerated = true) ∧
      ((script m width glyphs d source).pieces.length = 8 ∨
        (script m width glyphs d source).pieces.length = 13) := by
  have hshape := script_shape m width glyphs d source
  generalize script m width glyphs d source = sc at hshape
  cases hshape with
  | unwritable hnot => exact absurd hwritable hnot
  | header _ _ hresult => exact ⟨hresult, .inl rfl⟩
  | @undrawable line f hline hf =>
    obtain ⟨t, hok⟩ := Marker.exists_atOffset_iff.2 (h line hline)
    rw [marker, hok] at hf
    cases hf
  | full => exact ⟨fun e he => (by cases he), .inr rfl⟩

/-- A report that breaks off in front of the marker. -/
theorem script_of_not_drawable (h : ¬ Drawable m width glyphs d source) :
    d.Writable m ∧
    (∃ f : Text.Fault, (script m width glyphs d source).result = .error f.exception) ∧
      (script m width glyphs d source).pieces.length = 11 := by
  have hshape := script_shape m width glyphs d source
  generalize script m width glyphs d source = sc at hshape
  cases hshape with
  | unwritable hnot =>
    exact absurd (fun line hline => absurd (writable_of_shown hline) hnot) h
  | header _ hnone => exact absurd (fun line hline => absurd hline (hnone line)) h
  | @undrawable line f hline => exact ⟨writable_of_shown hline, ⟨f, rfl⟩, rfl⟩
  | @full line t hline ht =>
    refine absurd (fun line' hline' => ?_) h
    rw [hline] at hline'
    cases hline'
    exact Marker.exists_atOffset_iff.1 ⟨t, ht⟩

end Report

namespace Reporter

open Report

variable {r : Reporter} {host : Host} {env : Environment} {d : Diagnostic} {source : Option Buffer}
  {s : Stream} {p : Painter}

theorem tolerable_kin (hs : s.Tolerable) : s.kin.Tolerable := ⟨hs.terminal, fun h => absurd rfl h⟩

theorem painterOn_kin (r : Reporter) (env : Environment) (hopen : s.closed = false) :
    r.painterOn env s.kin = r.painterOn env s := by
  have hterminal : s.kin.isTerminal = s.isTerminal := by
    rw [Stream.isTerminal, Stream.isTerminal, hopen]
    rfl
  simp only [painterOn, Painter.ofStream, Painter.isWanted, hterminal]

/-! ### The texts of a report -/

/-- The texts that a report writes to an unused stream of the same kind. -/
def texts (r : Reporter) (host : Host) (env : Environment) (d : Diagnostic) (source : Option Buffer)
    (s : Stream) : List Text :=
  (r.write host env d source s.kin).stream.written

theorem texts_eq (hq : r.painterOn env s.kin = .ok p) :
    r.texts host env d source s =
      (r.script host d source).pieces.map (Piece.render host.colored env p) := by
  have hsound : s.kin.Sound := rfl
  rw [texts, stream_of_sound hq hsound]
  rfl

theorem length_texts (r : Reporter) (host : Host) (env : Environment) (d : Diagnostic)
    (source : Option Buffer) (hs : s.Tolerable) :
    (r.texts host env d source s).length = (r.script host d source).pieces.length := by
  obtain ⟨q, hq⟩ := exists_painterOn r env (tolerable_kin hs).terminal
  rw [texts_eq hq, List.length_map]

/-- Whatever painter a stream gets, it takes what it would take of the texts for its kin. -/
theorem offered_texts (hs : s.Tolerable) (hp : r.painterOn env s = .ok p) :
    s.offered ((r.script host d source).pieces.map (Piece.render host.colored env p)) =
      s.offered (r.texts host env d source s) := by
  refine Stream.offered_congr ?_ ?_
  · rw [length_texts r host env d source hs, List.length_map]
  rcases hclosed : s.closed with _ | _
  · rw [texts_eq ((painterOn_kin r env hclosed).trans hp)]
  · have hlimit : s.limit = some 0 := by rw [Stream.limit, hclosed]; rfl
    have hnone : ∀ ts, s.taken ts = [] := by
      intro ts
      rw [Stream.taken, hlimit, Option.map_some, Nat.zero_sub]
      rfl
    rw [hnone, hnone]

theorem write_stream (r : Reporter) (host : Host) (env : Environment) (d : Diagnostic)
    (source : Option Buffer) (hs : s.Tolerable) :
    (r.write host env d source s).stream = s.offered (r.texts host env d source s) := by
  obtain ⟨p, hp⟩ := exists_painterOn r env hs.terminal
  rw [write_eq hp, perform_stream, offered_texts hs hp]

/-! ### How a report ends -/

/-- What a report that would write the texts `ts` comes to: by whether the numbers of the diagnostic
can be written and the marker can be drawn. -/
structure Delivered (host : Host) (r : Reporter) (d : Diagnostic) (source : Option Buffer)
    (ts : List Text) (before : Stream) (o : Outcome) : Prop where
  drawn : d.Writable host.machine → Drawable host.machine (r.widthOn host) r.glyphs d source →
    (ts.length = 8 ∨ ts.length = 13) ∧ o.result = .ok ()
  /-- What is raised in front of the marker only matters if that is reached. -/
  undrawn : ¬ Drawable host.machine (r.widthOn host) r.glyphs d source →
    ts.length = 11 ∧
      (o.stream.written = before.written ++ ts → ∃ f : Text.Fault,
        o.result = .error (.own f.exception) ∧
          (f.exception.isA .overflow = true ∨ f.exception.isA .memory = true)) ∧
      (o.stream.written ≠ before.written ++ ts → o.result = .ok ())
  /-- Without a text of the diagnostic, no failure can be logged either. -/
  unwritable : ¬ d.Writable host.machine →
    (ts.length = 2 ∨ ts.length = 4) ∧ ∃ e, d.toText host.machine = .error e ∧
      e.isA .value = true ∧ o.result = .error (.own e)

theorem write_result_of_taken (hs : s.Tolerable)
    (h : s.taken (r.texts host env d source s) = r.texts host env d source s) :
    (r.write host env d source s).result =
      (conclude host.machine d s (r.script host d source).result).result := by
  obtain ⟨p, hp⟩ := exists_painterOn r env hs.terminal
  have hlen : (r.texts host env d source s).length =
      ((r.script host d source).pieces.map (Piece.render host.colored env p)).length := by
    rw [length_texts r host env d source hs, List.length_map]
  rw [write_eq hp, perform_of_taken ((Stream.taken_eq_self_congr hlen).1 h), conclude_anywhere]

theorem write_result_of_cut (hs : s.Tolerable)
    (h : s.taken (r.texts host env d source s) ≠ r.texts host env d source s) :
    ∃ e, e.isTolerated = true ∧
      (r.write host env d source s).result = (fail host.machine d (.stream e) s).result := by
  obtain ⟨p, hp⟩ := exists_painterOn r env hs.terminal
  obtain ⟨e, hrefuses, htolerated⟩ := Stream.exists_refuses hs h
  rw [length_texts r host env d source hs] at hrefuses
  refine ⟨e, htolerated, ?_⟩
  rw [write_eq hp, perform_of_refuses hrefuses, fail_anywhere]

theorem write_result_of_drawable (hs : s.Tolerable) (hwritable : d.Writable host.machine)
    (h : Drawable host.machine (r.widthOn host) r.glyphs d source) :
    (r.write host env d source s).result = .ok () := by
  by_cases htaken : s.taken (r.texts host env d source s) = r.texts host env d source s
  · rw [write_result_of_taken hs htaken]
    rcases hresult : (r.script host d source).result with e | logs
    · have htolerated := (script_of_drawable hwritable h).1 e hresult
      rw [conclude, fail_of_writable (f := .own e) htolerated hwritable]
    · rfl
  · obtain ⟨e, htolerated, hresult⟩ := write_result_of_cut hs htaken
    rw [hresult, fail_of_writable (f := .stream e) htolerated hwritable]

theorem write_result_of_not_writable (hs : s.Tolerable) {e : Exception}
    (htext : d.toText host.machine = .error e)
    (hscript : (r.script host d source).result = .error e) (he : e.isTolerated = true) :
    (r.write host env d source s).result = .error (.own e) := by
  by_cases htaken : s.taken (r.texts host env d source s) = r.texts host env d source s
  · rw [write_result_of_taken hs htaken, hscript, conclude,
      fail_of_not_writable (f := .own e) he htext]
  · obtain ⟨g, htolerated, hresult⟩ := write_result_of_cut hs htaken
    rw [hresult, fail_of_not_writable (f := .stream g) htolerated htext]

theorem write_delivered (r : Reporter) (host : Host) (env : Environment) (d : Diagnostic)
    (source : Option Buffer) (hs : s.Tolerable) :
    Delivered host r d source (r.texts host env d source s) s (r.write host env d source s) := by
  have hlen := length_texts r host env d source hs
  refine ⟨fun hwritable hdraw => ⟨?_, write_result_of_drawable hs hwritable hdraw⟩, fun hdraw => ?_,
    fun hnot => ?_⟩
  · rw [hlen]
    exact (script_of_drawable hwritable hdraw).2
  · obtain ⟨hwritable, ⟨f, hf⟩, hpieces⟩ := script_of_not_drawable hdraw
    have hwritten : (r.write host env d source s).stream.written =
        s.written ++ s.taken (r.texts host env d source s) := by
      rw [write_stream r host env d source hs]
      rfl
    refine ⟨hlen.trans hpieces, fun hall => ⟨f, ?_, f.isA_overflow_or_memory⟩, fun hcut => ?_⟩
    · rw [hwritten, List.append_cancel_left_eq] at hall
      rw [write_result_of_taken hs hall, script, hf, conclude,
        fail_of_not_tolerated (f := .own f.exception) f.isTolerated_exception]
    · rw [hwritten, Ne, List.append_cancel_left_eq] at hcut
      obtain ⟨e, htolerated, hresult⟩ := write_result_of_cut hs hcut
      rw [hresult, fail_of_writable (f := .stream e) htolerated hwritable]
  · obtain ⟨k, limit, hk, htext, hscript⟩ :=
      script_of_not_writable hnot (r.widthOn host) r.glyphs source
    refine ⟨?_, .tooManyDigits limit, htext, rfl, ?_⟩
    · rw [hlen, script, hscript]
      rcases hk with rfl | rfl
      · exact .inl rfl
      · exact .inr rfl
    · exact write_result_of_not_writable hs htext (by rw [script, hscript]) rfl

theorem texts_ne_nil (r : Reporter) (host : Host) (env : Environment) (d : Diagnostic)
    (source : Option Buffer) (hs : s.Tolerable) : r.texts host env d source s ≠ [] := by
  obtain ⟨rest, hpieces⟩ :=
    exists_script_pieces host.machine (r.widthOn host) r.glyphs d source
  refine List.length_pos_iff.1 ?_
  rw [length_texts r host env d source hs, script, hpieces]
  exact Nat.succ_pos _

end Reporter

end CaretReport
