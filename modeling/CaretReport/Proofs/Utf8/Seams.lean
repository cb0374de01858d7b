import CaretReport.Proofs.Utf8.Cuts
import CaretReport.Proofs.Utf8.Positions
import CaretReport.Proofs.Cells.Width

/-!
# Where reading notices a cut

A cut inside an encoding leaves malformed bytes on both of its sides, and spoils nothing else
(`Encodes.runes_front`, `Encodes.runes_back`). So reading notices exactly those cuts
(`runes_append_iff`), and never one behind well-formed data: `runes_cut`.
-/

namespace CaretReport.Utf8

open Cells

variable {c : CodePoint} {s t a b data : Bytes}

/-! ### The two parts of an encoding -/

theorem Encodes.fresh (h : Encodes c s) (rest : Bytes) : Fresh (s ++ rest) := by
  obtain ⟨b, s, rfl⟩ := List.exists_cons_of_ne_nil h.ne_nil
  rintro x ⟨⟩
  exact h.not_isContinuation

/-- The start of an encoding, behind any data. -/
theorem Encodes.runes_front (h : Encodes c (s ++ t)) (hs : s ≠ []) (ht : t ≠ []) (data : Bytes) :
    runes (data ++ s) = runes data ++ List.replicate s.length .malformed := by
  have hfresh : Fresh s := by
    obtain ⟨b, s, rfl⟩ := List.exists_cons_of_ne_nil hs
    exact h.fresh []
  have hcut : Garbled [] s := .cutOff h hs ht nofun
  have hruns := hcut.runes_eq
  rw [List.append_nil, runes_nil, List.append_nil] at hruns
  rw [runes_append data hfresh, hruns]

/-- The end of an encoding, in front of any data. -/
theorem Encodes.runes_back (h : Encodes c (s ++ t)) (hs : s ≠ []) (rest : Bytes) :
    runes (t ++ rest) = List.replicate t.length .malformed ++ runes rest :=
  runes_continuations (fun _ hb => h.isContinuation_of_mem_right hs hb) rest

/-! ### Cuts -/

theorem Straddled.runes_ne (h : Straddled a b) : runes (a ++ b) ≠ runes a ++ runes b := by
  obtain @⟨c, s, t, henc, hs, ht, ⟨front, rfl⟩, ⟨back, rfl⟩⟩ := h
  have hwhole : runes (front ++ s ++ (t ++ back)) =
      runes front ++ ⟨some c, (s ++ t).length⟩ :: runes back := by
    rw [List.append_assoc, ← List.append_assoc s, runes_append front (henc.fresh back),
      runes_encoded henc]
  rw [hwhole, henc.runes_front hs ht, henc.runes_back hs]
  -- the parts have a rune for each of at least two bytes, the whole has one for all of them
  intro heq
  have hlen := congrArg List.length heq
  simp only [List.length_append, List.length_cons, List.length_replicate] at hlen
  have hspos := List.length_pos_iff.2 hs
  have htpos := List.length_pos_iff.2 ht
  omega

theorem runes_append_iff : runes (a ++ b) = runes a ++ runes b ↔ ¬ Straddled a b :=
  ⟨fun h hin => hin.runes_ne h, runes_append_of_not_straddled⟩

theorem not_straddled_of_wellFormed (h : WellFormed a) : ¬ Straddled a b := by
  rintro @⟨c, s, t, henc, hs, ht, ⟨front, rfl⟩, -⟩
  have hcount := wellFormed_iff_count.1 h
  rw [henc.runes_front hs ht, List.count_append, List.count_replicate_self] at hcount
  have hpos := List.length_pos_iff.2 hs
  omega

theorem ofBytes_append_of_not_straddled (width : Width) (h : ¬ Straddled a b) :
    ofBytes width (a ++ b) = ofBytes width a + ofBytes width b := by
  rw [ofBytes, runes_append_of_not_straddled h, ofRunes_append]
  rfl

/-- Data are read in two parts as they are read together exactly if no encoding lies across the cut.
That holds in front of a byte that is no continuation byte, at the end of the data, and behind
well-formed data. The text of the parts and their width, in any measure, then add up too. Moving
along the data from an offset on is reading the data behind it. -/
theorem runes_cut :
    (∀ a b : Bytes, Fresh b ∨ WellFormed a →
      runes (a ++ b) = runes a ++ runes b ∧ decode (a ++ b) = decode a ++ decode b ∧
        ∀ width : Width, ofBytes width (a ++ b) = ofBytes width a + ofBytes width b) ∧
      (∀ a b : Bytes, runes (a ++ b) = runes a ++ runes b ↔ ¬ Straddled a b) ∧
      ∀ (data : Bytes) (k : Nat), (∃ rs, runesFrom data k = .ok rs) ∧
        (∀ rs, runesFrom data k = .ok rs ↔ Scan data k rs) ∧
        runesFrom data k = runesFrom (data.drop k) 0 := by
  refine ⟨fun a b h => ?_, fun a b => runes_append_iff, fun data k => ⟨⟨_, rfl⟩, fun rs => ?_, rfl⟩⟩
  · have hcut : ¬ Straddled a b := h.elim not_straddled_of_fresh not_straddled_of_wellFormed
    exact ⟨runes_append_of_not_straddled hcut, decode_append_of_not_straddled hcut,
      fun width => ofBytes_append_of_not_straddled width hcut⟩
  · exact ⟨fun h => by cases h; exact scan_runes data k,
      fun h => congrArg Except.ok ((scan_runes data k).unique h)⟩

/-- A sequence without its end in front of another lead, and a stray byte behind an encoding. -/
theorem runes_cut_truncated :
    Fresh [0xC3, 0xA9] ∧ decode ([0x78, 0xE6, 0x97] ++ [0xC3, 0xA9]) = "x��é" ∧
      WellFormed (Text.utf8 "é") ∧ decode (Text.utf8 "é" ++ [0xA9, 0x78]) = "é�x" := by
  have hfresh : Fresh [0xC3, 0xA9] := by
    rintro x ⟨⟩
    rfl
  have hformed : WellFormed (Text.utf8 "é") := wellFormed_utf8 (by decide)
  refine ⟨hfresh, ?_, hformed, ?_⟩
  · rw [(runes_cut.1 _ _ (.inl hfresh)).2.1]
    cbv
  · rw [(runes_cut.1 _ _ (.inr hformed)).2.1]
    cbv

end CaretReport.Utf8
