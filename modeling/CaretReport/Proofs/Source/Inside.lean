import CaretReport.Proofs.Source.Token
import CaretReport.Proofs.Utf8.Seams

/-!
# Columns inside an encoding

A column can lie between the bytes of an encoding. The bytes in front of it and those behind it are
then one replacement each, and the text on both sides is read as if the encoding were not there:
`Marker.atColumn_inside`.
-/

namespace CaretReport.Marker

open Utf8 Cells

variable {m : Machine} {width : Width} {glyphs : Glyphs} {a b s t : Bytes} {c : CodePoint} {k : Nat}

theorem ofRunes_malformed (width : Width) (n : Nat) :
    ofRunes width (List.replicate n .malformed) = n * width (some .replacement) := by
  rw [ofRunes_eq_sum, List.map_replicate, List.sum_replicate, nsmul_eq_mul]
  rfl

theorem ofBytes_front (h : Encodes c (s ++ t)) (hs : s ≠ []) (ht : t ≠ []) (a : Bytes) :
    ofBytes width (a ++ s) = ofBytes width a + s.length * width (some .replacement) := by
  rw [ofBytes, h.runes_front hs ht, ofRunes_append, ofRunes_malformed]
  rfl

theorem token_back (h : Encodes c (s ++ t)) (hs : s ≠ []) (b : Bytes) :
    token (runes (t ++ b)) = List.replicate t.length .malformed ++ token (runes b) := by
  have hblank : ∀ r ∈ List.replicate t.length Rune.malformed, isBlank r = false := by
    intro r hr
    rw [List.eq_of_mem_replicate hr]
    rfl
  rw [h.runes_back hs, token_append hblank]

theorem take_inside (h : k ≤ s.length) (a b : Bytes) :
    (a ++ s ++ b).take (a.length + k) = a ++ s.take k := by
  rw [List.append_assoc, List.take_length_add_append, List.take_append_of_le_length h]

theorem drop_inside (h : k ≤ s.length) (a b : Bytes) :
    (a ++ s ++ b).drop (a.length + k) = s.drop k ++ b := by
  rw [List.append_assoc, List.drop_length_add_append, List.drop_append_of_le_length h]

/-- An encoding is cut in two parts, both with bytes. -/
theorem exists_cut (hc : c.isSurrogate = false) (hpos : 0 < k) (hlt : k < c.utf8.length) :
    Encodes c (c.utf8.take k ++ c.utf8.drop k) ∧ c.utf8.take k ≠ [] ∧ c.utf8.drop k ≠ [] := by
  refine ⟨?_, ?_, ?_⟩
  · rw [List.take_append_drop]
    exact encodes_utf8 hc
  · rw [← List.length_pos_iff, List.length_take]
    omega
  · rw [← List.length_pos_iff, List.length_drop]
    omega

theorem marks_inside (m : Machine) (width : Width) (glyphs : Glyphs) (a b : Bytes)
    (hc : c.isSurrogate = false) (hpos : 0 < k) (hlt : k < c.utf8.length) :
    Marks m glyphs (ofBytes width a + k * width (some .replacement))
      ((c.utf8.length - k : Nat) * width (some .replacement) + ofRunes width (token (runes b)))
      (atColumn m width glyphs (a ++ c.utf8 ++ b) ((a.length + k : Nat) + 1)) := by
  obtain ⟨henc, hs, ht⟩ := exists_cut hc hpos hlt
  have hmarks := marks_atColumn m width glyphs (a ++ c.utf8 ++ b) (a.length + k)
  rw [take_inside hlt.le, drop_inside hlt.le, ofBytes_front henc hs ht, token_back henc hs,
    ofRunes_append, ofRunes_malformed, List.length_take, List.length_drop,
    Nat.min_eq_left hlt.le] at hmarks
  exact hmarks

/-- At a column behind `k` of the bytes of an encoding, these are `k` replacements behind the text
in front of it, and the other bytes are as many replacements in front of the text behind it. The
marker is drawn with their cells, as far as the machine can put it together. -/
theorem atColumn_inside (m : Machine) (width : Width) (glyphs : Glyphs) (a b : Bytes)
    (hc : c.isSurrogate = false) (hpos : 0 < k) (hlt : k < c.utf8.length) :
    runes ((a ++ c.utf8 ++ b).take (a.length + k)) = runes a ++ List.replicate k .malformed ∧
      runesFrom (a ++ c.utf8 ++ b) (a.length + k : Nat) =
        .ok (List.replicate (c.utf8.length - k) .malformed ++ runes b) ∧
      Marks m glyphs (ofBytes width a + k * width (some .replacement))
        ((c.utf8.length - k : Nat) * width (some .replacement) + ofRunes width (token (runes b)))
        (atColumn m width glyphs (a ++ c.utf8 ++ b) ((a.length + k : Nat) + 1)) := by
  obtain ⟨henc, hs, ht⟩ := exists_cut hc hpos hlt
  refine ⟨?_, ?_, marks_inside m width glyphs a b hc hpos hlt⟩
  · rw [take_inside hlt.le, henc.runes_front hs ht, List.length_take, Nat.min_eq_left hlt.le]
  · refine congrArg Except.ok ?_
    rw [drop_inside hlt.le, henc.runes_back hs, List.length_drop]

/-- An encoding between a sequence without its end and a stray byte. -/
theorem atColumn_inside_malformed :
    atColumn .usual (display tabled) {} ([0xE6, 0x97] ++ CodePoint.utf8 '日' ++ [0xA5, 0x20]) 4 =
      .ok "   ^~~" := by
  obtain ⟨-, -, hmarks⟩ := atColumn_inside .usual (display tabled) {} [0xE6, 0x97] [0xA5, 0x20]
    (c := '日') (k := 1) (by decide) (by decide) (by decide)
  have hgap : ofBytes (display tabled) [0xE6, 0x97] = 2 := by
    have htext : decode [0xE6, 0x97] = "��" := by cbv
    rw [ofBytes_eq_ofText, htext]
    decide +kernel
  have hcells : ofRunes (display tabled) (token (runes [0xA5, 0x20])) = 1 := by
    have hread : runes [0xA5, 0x20] = [.malformed, ⟨some ' ', 1⟩] := by cbv
    rw [hread]
    decide +kernel
  have hone : display tabled (some .replacement) = 1 := by decide +kernel
  have hlen : (CodePoint.utf8 '日').length = 3 := by decide
  rw [hgap, hcells, hone, hlen] at hmarks
  have hroom : Machine.usual.HasRoom 8 := Machine.hasRoom_usual (by decide)
  exact hmarks.drawn (draws_of_hasRoom hroom (g := 3) (k := 3) (by decide) (by decide) (by decide)
    (by decide) (by decide) (by decide))

/-- Not every marker inside an encoding is drawn, on no machine: the width of the text behind it can
be too low for a repetition. And its own width can be too high for the memory of a machine. -/
theorem not_forall_atColumn_inside_drawn :
    (∀ m : Machine, ¬ ∀ (width : Width) (glyphs : Glyphs) (a b : Bytes) (c : CodePoint) (k : Nat),
      c.isSurrogate = false → 0 < k → k < c.utf8.length →
      atColumn m width glyphs (a ++ c.utf8 ++ b) ((a.length + k : Nat) + 1) =
        .ok (Text.spaces (ofBytes width a + k * width (some .replacement)).toNat ++ glyphs.caret ++
          Text.times ((c.utf8.length - k : Nat) * width (some .replacement) +
            ofRunes width (token (runes b)) - 1).toNat glyphs.filler)) ∧
      atColumn .usual (fun _ => 0x4000000000000000) {} (CodePoint.utf8 'é') 2 =
        .error (.text .memory) := by
  refine ⟨fun m hall => ?_, ?_⟩
  · let width : Width := fun o => if o = some (.ofChar 'a') then -2 ^ 63 - 3 else 1
    have hdrawn := hall width {} [] [0x61] 'é' 1 (by decide) (by decide) (by decide)
    have hread : runes [0x61] = [⟨some 'a', 1⟩] := by cbv
    have hfillers : ¬ m.Repeatable (fillers (((CodePoint.utf8 'é').length - 1 : Nat) *
        width (some .replacement) + ofRunes width (token (runes [0x61])))) "~" := by
      rw [hread]
      intro h
      exact absurd h.count (by decide +kernel)
    obtain ⟨f, hf, -⟩ := (marks_inside m width {} [] [0x61] (c := 'é') (k := 1) (by decide)
      (by decide) (by decide)).undrawn fun h => hfillers h.fillers
    rw [hf] at hdrawn
    cases hdrawn
  · have hread : runes [0xC3] = [.malformed] := by cbv
    have hbefore : (CodePoint.utf8 'é').take 1 = [0xC3] := by decide
    have hgap : ofBytes (fun _ => 0x4000000000000000) ([0xC3] : Bytes) = 0x4000000000000000 := by
      rw [ofBytes, hread]
      rfl
    have htwo : (2 : Int) = (1 : Nat) + 1 := rfl
    rw [htwo, atColumn_add_one, atOffset, hbefore, hgap, draw_usual_of_wide]
    rfl

end CaretReport.Marker
