import CaretReport.Proofs.Utf8.Tiling

/-!
# Decoding what was encoded, and encoding what was decoded

A text without surrogates comes back from its encoding rune by rune (`runes_utf8`). Data that
consist of encodings come back from their text; in all other data each malformed byte has become
the three bytes of a replacement. `decode_round_trip` puts both ways together.
-/

namespace CaretReport.Utf8

/-- The data consist of encodings. -/
inductive WellFormed : Bytes → Prop
  | nil : WellFormed []
  | append {c : CodePoint} {bs rest : Bytes} (henc : Encodes c bs) (hrest : WellFormed rest) :
    WellFormed (bs ++ rest)

variable {c : CodePoint} {bs rest data : Bytes} {b : UInt8} {t : Text}

/-! ### One step of decoding -/

theorem decode_nil : decode [] = [] := by
  rw [decode, runes_nil]
  rfl

theorem decode_encoded (h : Encodes c bs) (rest : Bytes) :
    decode (bs ++ rest) = c :: decode rest := by
  rw [decode, runes_encoded h, List.flatMap_cons]
  rfl

theorem decode_broken (h : Broken (b :: rest)) :
    decode (b :: rest) = .replacement :: decode rest := by
  rw [decode, runes_broken h, List.flatMap_cons]
  rfl

theorem utf8_cons (c : CodePoint) (t : Text) : Text.utf8 (c :: t) = c.utf8 ++ t.utf8 :=
  List.flatMap_cons

/-! ### From texts to bytes and back -/

theorem wellFormed_utf8 (h : ∀ c ∈ t, c.isSurrogate = false) : WellFormed t.utf8 := by
  induction t with
  | nil => exact .nil
  | cons c t ih =>
    rw [utf8_cons]
    exact .append (encodes_utf8 (h c List.mem_cons_self))
      (ih fun d hd => h d (List.mem_cons_of_mem c hd))

theorem runes_utf8 (h : ∀ c ∈ t, c.isSurrogate = false) :
    runes t.utf8 = t.map fun c => ⟨some c, c.utf8.length⟩ := by
  induction t with
  | nil => exact runes_nil
  | cons c t ih =>
    have hc := encodes_utf8 (h c List.mem_cons_self)
    rw [utf8_cons, runes_encoded hc, ih fun d hd => h d (List.mem_cons_of_mem c hd), List.map_cons]

theorem decode_utf8 (h : ∀ c ∈ t, c.isSurrogate = false) : decode t.utf8 = t := by
  rw [decode, runes_utf8 h, List.flatMap_map]
  exact List.flatMap_singleton' t

/-! ### From bytes to texts and back -/

theorem isSurrogate_replacement : CodePoint.replacement.isSurrogate = false := by decide

theorem not_isSurrogate_of_mem_decode (h : c ∈ decode data) : c.isSurrogate = false := by
  obtain ⟨r, hr, hc⟩ := List.mem_flatMap.1 h
  rcases eq_of_mem_runes hr with ⟨d, bs, henc, rfl⟩ | rfl
  · rw [List.mem_singleton.1 hc]
    exact henc.not_surrogate
  · rw [List.mem_singleton.1 hc]
    exact isSurrogate_replacement

theorem utf8_decode (h : WellFormed data) : (decode data).utf8 = data := by
  induction h with
  | nil => rw [decode_nil]; rfl
  | append henc _ ih => rw [decode_encoded henc, utf8_cons, ih, henc.eq_utf8]

theorem length_utf8_decode (data : Bytes) :
    (decode data).utf8.length = data.length + 2 * (runes data).count .malformed := by
  induction data using runes_induction with
  | nil => rw [decode_nil, runes_nil]; rfl
  | encoded c bs rest henc ih =>
    rw [decode_encoded henc, runes_encoded henc, utf8_cons, List.count_cons_of_ne henc.ne_malformed,
      List.length_append, List.length_append, ih, henc.eq_utf8]
    omega
  | broken b rest hb ih =>
    have hthree : CodePoint.replacement.utf8.length = 3 := by decide
    rw [decode_broken hb, runes_broken hb, utf8_cons, List.count_cons_self, List.length_append,
      List.length_cons, ih, hthree]
    omega

theorem utf8_decode_eq_iff : (decode data).utf8 = data ↔ WellFormed data := by
  refine ⟨fun h => ?_, utf8_decode⟩
  rw [← h]
  exact wellFormed_utf8 fun c hc => not_isSurrogate_of_mem_decode hc

theorem wellFormed_of_count (h : (runes data).count .malformed = 0) : WellFormed data := by
  induction data using runes_induction with
  | nil => exact .nil
  | encoded c bs rest henc ih =>
    rw [runes_encoded henc, List.count_cons_of_ne henc.ne_malformed] at h
    exact .append henc (ih h)
  | broken b rest hb ih =>
    rw [runes_broken hb, List.count_cons_self] at h
    cases h

theorem wellFormed_iff_count : WellFormed data ↔ (runes data).count .malformed = 0 := by
  refine ⟨fun h => ?_, wellFormed_of_count⟩
  have hlen := length_utf8_decode data
  rw [utf8_decode h] at hlen
  omega

/-- A text without surrogates is decoded from its encoding, each code point in one rune. Data are
decoded to a text without surrogates, whose encoding is two bytes longer for each malformed byte,
and is the data themselves if and only if they are well-formed. -/
theorem decode_round_trip :
    (∀ t : Text, (∀ c ∈ t, c.isSurrogate = false) →
      runes t.utf8 = (t.map fun c => ⟨some c, c.utf8.length⟩) ∧ decode t.utf8 = t) ∧
      ∀ data : Bytes, (∀ c ∈ decode data, c.isSurrogate = false) ∧
        (decode data).utf8.length = data.length + 2 * (runes data).count .malformed ∧
        ((decode data).utf8 = data ↔ WellFormed data) ∧
        (WellFormed data ↔ (runes data).count .malformed = 0) := by
  refine ⟨fun t h => ⟨runes_utf8 h, decode_utf8 h⟩, fun data => ?_⟩
  exact ⟨fun c hc => not_isSurrogate_of_mem_decode hc, length_utf8_decode data, utf8_decode_eq_iff,
    wellFormed_iff_count⟩

/-- Encodings of every length; the replacement that is itself encoded takes three bytes. -/
theorem decode_round_trip_lengths :
    runes (Text.utf8 "a¢€�😀") =
      [⟨some 'a', 1⟩, ⟨some '¢', 2⟩, ⟨some '€', 3⟩, ⟨some .replacement, 3⟩, ⟨some '😀', 4⟩] := by
  obtain ⟨hrunes, -⟩ := decode_round_trip.1 "a¢€�😀" (by decide)
  exact hrunes.trans (by decide)

end CaretReport.Utf8
