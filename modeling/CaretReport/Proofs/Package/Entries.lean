import CaretReport.Proofs.Package.Reading
import CaretReport.Proofs.Source.Lines
import Mathlib.Data.List.DropRight

/-!
# The entries of a requirements file

The entries of a text are its trimmed pieces between line breaks, without those that are empty or
start with a number sign (`entries_eq`). A break parts the entries in front of it from those behind
it (`entries_append_break`), it does not matter how line ends are written (`entries_unifyNewlines`),
and entries on lines of their own are read back (`entries_joinWith`). So contents that are put
together at a line feed have their requirements put together (`File.requirements_joined`).
-/

namespace CaretReport

namespace Text

variable {t : Text} {c : CodePoint}

theorem lines_eq (t : Text) : t.lines = withoutEmptyEnd (t.splitOnP CodePoint.isLineBreak) := by
  refine eq_withoutEmptyEnd rfl (fun c t hc => ?_) (fun c t hc => ?_) t
  · rw [lines, if_pos hc]
  · rw [lines, if_neg (Bool.eq_false_iff.1 hc)]
    cases lines t <;> rfl

theorem trim_isPrefix (t : Text) : t.trim <+: t.dropWhile CodePoint.isBlank :=
  List.rdropWhile_prefix CodePoint.isBlank _

theorem mem_of_mem_trim (h : c ∈ t.trim) : c ∈ t :=
  (List.dropWhile_sublist CodePoint.isBlank).subset ((trim_isPrefix t).subset h)

/-- A trimmed text starts with the first code point that is not blank. -/
theorem find?_of_head?_trim (h : t.trim.head? = some c) :
    t.find? (fun c => !c.isBlank) = some c := by
  obtain ⟨rest, hrest⟩ := List.head?_eq_some_iff.1 h
  obtain ⟨more, hmore⟩ := trim_isPrefix t
  simp only [List.find?_eq_head?_dropWhile_not, Bool.not_not]
  rw [← hmore, hrest]
  rfl

theorem not_isBlank_of_head?_trim (h : t.trim.head? = some c) : c.isBlank = false := by
  simpa using List.find?_some (find?_of_head?_trim h)

theorem not_isBlank_of_getLast?_trim (h : t.trim.getLast? = some c) : c.isBlank = false := by
  obtain ⟨hne, rfl⟩ := List.mem_getLast?_eq_getLast h
  exact Bool.eq_false_iff.2 (List.rdropWhile_last_not CodePoint.isBlank _ hne)

theorem trim_eq_self (hhead : ∀ c ∈ t.head?, c.isBlank = false)
    (hlast : ∀ c ∈ t.getLast?, c.isBlank = false) : t.trim = t := by
  have hfront : t.dropWhile CodePoint.isBlank = t := by
    cases t with
    | nil => rfl
    | cons c t => exact List.dropWhile_cons_of_neg (by simp [hhead c rfl])
  have hback : t.rdropWhile CodePoint.isBlank = t :=
    List.rdropWhile_eq_self_iff.2 fun hne => by simp [hlast _ (List.getLast_mem_getLast? hne)]
  rw [trim, hfront]
  exact hback

end Text

namespace Package

open Utf8 Source

/-- A text that is read back as it stands: an entry without blanks at its ends. -/
structure Entry (t : Text) : Prop where
  ne_nil : t ≠ []
  head : ∀ c ∈ t.head?, c.isBlank = false ∧ c ≠ '#'
  last : ∀ c ∈ t.getLast?, c.isBlank = false
  unbroken : ∀ c ∈ t, c.isLineBreak = false
  encodable : ∀ c ∈ t, c.isSurrogate = false

/-- A line that gives no entry: if it holds anything but blanks, that starts with a number sign. -/
structure Idle (line : Text) : Prop where
  first : ∀ c ∈ line.find? (fun c => !c.isBlank), c = '#'
  unbroken : ∀ c ∈ line, c.isLineBreak = false

variable {t u line : Text} {ts : List Text} {c : CodePoint} {data front back : Bytes}

theorem isEntry_iff : isEntry t = true ↔ t ≠ [] ∧ ∀ c ∈ t.head?, c ≠ '#' := by
  cases t <;> simp [isEntry]

/-! ### Entries between breaks -/

theorem entries_eq (t : Text) :
    entries t = ((t.splitOnP CodePoint.isLineBreak).map Text.trim).filter isEntry := by
  rw [entries, Text.lines_eq, withoutEmptyEnd]
  split
  · next h =>
    -- the piece that is left out is empty, and so no entry
    obtain ⟨ps, hps⟩ := List.getLast?_eq_some_iff.1 h
    rw [hps, List.dropLast_concat, List.map_append, List.filter_append, List.map_singleton]
    exact (List.append_nil _).symm
  · rfl

theorem entries_append_break (t u : Text) (hc : c.isLineBreak = true) :
    entries (t ++ c :: u) = entries t ++ entries u := by
  simp only [entries_eq]
  rw [List.splitOnP_append_cons t u hc, List.map_append, List.filter_append]

theorem entries_nil : entries [] = [] := rfl

theorem entries_break (u : Text) (hc : c.isLineBreak = true) : entries (c :: u) = entries u :=
  entries_append_break [] u hc

theorem entries_unbroken (h : ∀ c ∈ t, c.isLineBreak = false) :
    entries t = [t.trim].filter isEntry := by
  rw [entries_eq, List.splitOnP_eq_singleton h, List.map_singleton]

theorem entries_entry (h : Entry t) : entries t = [t] := by
  have hentry : isEntry t = true := isEntry_iff.2 ⟨h.ne_nil, fun c hc => (h.head c hc).2⟩
  rw [entries_unbroken h.unbroken, Text.trim_eq_self (fun c hc => (h.head c hc).1) h.last,
    List.filter_cons_of_pos hentry, List.filter_nil]

theorem entries_idle (h : Idle line) : entries line = [] := by
  have hnone : ¬ isEntry line.trim = true := by
    rw [isEntry_iff]
    rintro ⟨hne, hhead⟩
    obtain ⟨c, rest, hcons⟩ := List.exists_cons_of_ne_nil hne
    have hc : line.trim.head? = some c := by rw [hcons]; rfl
    exact hhead c hc (h.first c (Text.find?_of_head?_trim hc))
  rw [entries_unbroken h.unbroken, List.filter_cons_of_neg hnone, List.filter_nil]

theorem entry_of_mem (ht : ∀ c ∈ t, c.isSurrogate = false) (h : u ∈ entries t) : Entry u := by
  rw [entries_eq, List.mem_filter, List.mem_map] at h
  obtain ⟨⟨piece, hpiece, rfl⟩, hentry⟩ := h
  obtain ⟨hne, hhead⟩ := isEntry_iff.1 hentry
  have hmem : ∀ c ∈ piece.trim, c ∈ t ∧ c.isLineBreak = false := fun c hc =>
    of_mem_splitOnP hpiece (Text.mem_of_mem_trim hc)
  exact ⟨hne, fun c hc => ⟨Text.not_isBlank_of_head?_trim hc, hhead c hc⟩,
    fun c hc => Text.not_isBlank_of_getLast?_trim hc, fun c hc => (hmem c hc).2,
    fun c hc => ht c (hmem c hc).1⟩

theorem joinWith_cons_cons (t u : Text) (ts : List Text) :
    Text.joinWith "\n" (t :: u :: ts) = t ++ .ofChar '\n' :: Text.joinWith "\n" (u :: ts) := by
  rw [Text.joinWith, List.append_assoc]
  rfl

/-- Entries on lines of their own. -/
theorem entries_joinWith : ∀ {ts : List Text}, (∀ t ∈ ts, Entry t) →
    entries (Text.joinWith "\n" ts) = ts
  | [], _ => rfl
  | [t], h => entries_entry (h t List.mem_cons_self)
  | t :: u :: ts, h => by
    have hrest := entries_joinWith fun v hv => h v (List.mem_cons_of_mem t hv)
    rw [joinWith_cons_cons, entries_append_break _ _ (by decide),
      entries_entry (h t List.mem_cons_self),
      hrest]
    rfl

theorem not_isSurrogate_of_mem_joinWith : ∀ {ts : List Text}, (∀ t ∈ ts, Entry t) →
    ∀ c ∈ Text.joinWith "\n" ts, c.isSurrogate = false
  | [], _ => nofun
  | [t], h => (h t List.mem_cons_self).encodable
  | t :: u :: ts, h => by
    have hrest := not_isSurrogate_of_mem_joinWith fun v hv => h v (List.mem_cons_of_mem t hv)
    rw [joinWith_cons_cons]
    intro c hc
    rcases List.mem_append.1 hc with hc | hc
    · exact (h t List.mem_cons_self).encodable c hc
    · rcases List.mem_cons.1 hc with rfl | hc
      · decide
      · exact hrest c hc

/-- The invariant goes along the text: `front` is what stands in front of the rest in its line, and
that is nothing behind a carriage return. -/
theorem entries_unifyFrom (t : Text) (returned : Bool) (front : Text)
    (hfront : returned = true → front = []) :
    entries (front ++ Text.unifyFrom returned t) = entries (front ++ t) := by
  induction t generalizing returned front with
  | nil => rfl
  | cons c t ih =>
    have hfeed : (CodePoint.ofChar '\n').isLineBreak = true := by decide
    have hreturn : (CodePoint.ofChar '\r').isLineBreak = true := by decide
    rw [Text.unifyFrom]
    split_ifs with hc hpair
    · have hrest : entries (Text.unifyFrom true t) = entries t := ih true [] fun _ => rfl
      rw [hc, entries_append_break _ _ hfeed, entries_append_break _ _ hreturn, hrest]
    · obtain ⟨rfl, hreturned⟩ := hpair
      rw [hfront hreturned, List.nil_append, List.nil_append, entries_break t hfeed]
      exact ih false [] fun h => absurd h Bool.false_ne_true
    · rw [List.append_cons, List.append_cons front c t]
      exact ih false (front ++ [c]) fun h => absurd h Bool.false_ne_true

theorem entries_unifyNewlines (t : Text) : entries t.unifyNewlines = entries t :=
  entries_unifyFrom t false [] fun _ => rfl

/-! ### Contents that are cut at a line feed -/

/-- The data end with a line, or there is nothing in them. -/
def EndsLine (front : Bytes) : Prop := front = [] ∨ front.getLast? = some lineFeed

theorem entries_decode_feed (front back : Bytes) :
    entries (decode (front ++ lineFeed :: back)) =
      entries (decode front) ++ entries (decode back) := by
  rw [isAscii_lineFeed.decode_append_cons]
  exact entries_append_break _ _ (by decide)

theorem EndsLine.entries_append (h : EndsLine front) (back : Bytes) :
    entries (decode (front ++ back)) = entries (decode front) ++ entries (decode back) := by
  rcases h with rfl | h
  · rw [decode_nil, entries_nil, List.nil_append, List.nil_append]
  · obtain ⟨front, rfl⟩ := List.getLast?_eq_some_iff.1 h
    rw [← List.append_cons, entries_decode_feed, entries_decode_feed, decode_nil, entries_nil,
      List.append_nil]

theorem EndsLine.wellFormed_append_iff (h : EndsLine front) :
    WellFormed (front ++ back) ↔ WellFormed front ∧ WellFormed back := by
  rcases h with rfl | h
  · exact ⟨fun hback => ⟨.nil, hback⟩, fun h => h.2⟩
  · obtain ⟨front, rfl⟩ := List.getLast?_eq_some_iff.1 h
    rw [← List.append_cons, isAscii_lineFeed.wellFormed_append_cons_iff,
      isAscii_lineFeed.wellFormed_append_cons_iff, and_assoc, and_iff_right WellFormed.nil]

namespace File

theorem requirements_eq (h : WellFormed data) :
    requirements (.content data) = .ok (entries (decode data)) := by
  rw [(reads_of_unified h (Text.unified_unifyNewlines _)).requirements, entries_unifyNewlines]

/-- Every well-formed file of requirements is read. Two of them with a line feed between them give
the entries of the one and then those of the other. What is read are entries, and every list of
entries is read back from a file that has them on lines of their own. A line in the place between
two lines that is blank or a comment changes nothing. -/
theorem requirements_joined {a b : Bytes} (ha : WellFormed a) (hb : WellFormed b) :
    ∃ ra rb, requirements (.content a) = .ok ra ∧ requirements (.content b) = .ok rb ∧
      requirements (.content (a ++ lineFeed :: b)) = .ok (ra ++ rb) ∧
      (∀ r ∈ ra, Entry r) ∧
      (∀ rs : List Text, (∀ r ∈ rs, Entry r) →
        requirements (.content (Text.joinWith "\n" rs).utf8) = .ok rs) ∧
      ∀ front line back, a = front ++ back → EndsLine front → WellFormed line →
        Idle (decode line) →
        requirements (.content (front ++ line ++ lineFeed :: back)) = .ok ra := by
  refine ⟨entries (decode a), entries (decode b), requirements_eq ha, requirements_eq hb, ?_,
    fun r hr => entry_of_mem (fun c hc => not_isSurrogate_of_mem_decode hc) hr,
    fun rs hrs => ?_, ?_⟩
  · rw [requirements_eq (isAscii_lineFeed.wellFormed_append_cons_iff.2 ⟨ha, hb⟩),
      entries_decode_feed]
  · have hencodable := not_isSurrogate_of_mem_joinWith hrs
    rw [requirements_eq (wellFormed_utf8 hencodable), decode_utf8 hencodable, entries_joinWith hrs]
  · rintro front line back rfl hfront hline hidle
    obtain ⟨hwf, hwb⟩ := hfront.wellFormed_append_iff.1 ha
    have hwell : WellFormed (front ++ line ++ lineFeed :: back) :=
      isAscii_lineFeed.wellFormed_append_cons_iff.2 ⟨hfront.wellFormed_append_iff.2 ⟨hwf, hline⟩,
        hwb⟩
    rw [requirements_eq hwell, entries_decode_feed, hfront.entries_append, hfront.entries_append,
      entries_idle hidle, List.append_nil]

/-- A form feed ends a comment, blanks of all scripts are dropped, the last line end of the first
file is read together with the line feed behind it, and a comment is put behind a line. -/
theorem requirements_joined_form_feed :
    let front : Bytes := Text.utf8 "　x>=1 \r\n"
    let back : Bytes := Text.utf8 "# no\x0cy\r"
    requirements (.content (front ++ back ++ lineFeed :: Text.utf8 " z\u2028#w")) =
        .ok ["x>=1", "y", "z"] ∧
      requirements (.content (front ++ Text.utf8 "\t# #v" ++ lineFeed :: back)) =
        .ok ["x>=1", "y"] := by
  intro front back
  have hwell : ∀ t : Text, (∀ c ∈ t, c.isSurrogate = false) → WellFormed t.utf8 := fun _ =>
    wellFormed_utf8
  have hfront : EndsLine front := .inr (by decide)
  have ha := hfront.wellFormed_append_iff.2
    ⟨hwell "　x>=1 \r\n" (by decide), hwell "# no\x0cy\r" (by decide)⟩
  have hb := hwell " z\u2028#w" (by decide)
  have hidle : Idle (decode (Text.utf8 "\t# #v")) := by
    rw [decode_utf8 (by decide)]
    exact ⟨by decide, by decide⟩
  obtain ⟨ra, rb, hra, hrb, hrab, -, -, hinsert⟩ := requirements_joined ha hb
  rw [requirements_eq ha, hfront.entries_append, decode_utf8 (by decide), decode_utf8 (by decide)]
    at hra
  rw [requirements_eq hb, decode_utf8 (by decide)] at hrb
  obtain rfl : (["x>=1", "y"] : List Text) = ra := Except.ok.inj hra
  obtain rfl : (["z"] : List Text) = rb := Except.ok.inj hrb
  exact ⟨hrab, hinsert front _ back rfl hfront (hwell "\t# #v" (by decide)) hidle⟩

end File

end Package

end CaretReport
