import CaretReport.Source.Basic
import CaretReport.Proofs.Utf8.RoundTrip
import Mathlib.Algebra.Order.BigOperators.Group.List
import Mathlib.Algebra.Order.Group.Int

/-!
# Widths of runes and of texts

Each rune that lenient reading gives is one code point of the decoded text (`map_point_runes`), so
the width of runes is the width of that text, for every width function (`ofRunes_of_points`); bytes
and texts measure alike (`measured_alike`). The display width hangs on what a library says; of ASCII
that is known (`AsciiWidth`), and true of the tables (`asciiWidth_tabled`).
-/

namespace CaretReport

namespace Utf8

theorem map_point_runes (data : Bytes) : (runes data).map Rune.point = (decode data).map some := by
  have key : ∀ rs : List Rune, (∀ r ∈ rs, r.point.isSome) →
      rs.map Rune.point = (rs.flatMap Rune.text).map some := by
    intro rs h
    induction rs with
    | nil => rfl
    | cons r rs ih =>
      obtain ⟨c, hc⟩ := Option.isSome_iff_exists.1 (h r (by simp))
      rw [List.map_cons, List.flatMap_cons, List.map_append, ih fun r' hr => h r' (by simp [hr])]
      simp [Rune.text, hc]
  exact key _ fun r hr => isSome_point_of_mem hr

end Utf8

namespace Cells

open Utf8

theorem ofText_eq_sum (width : Width) (t : Text) :
    ofText width t = (t.map fun c => width (some c)).sum := by
  rw [ofText, List.sum_eq_foldr, List.foldr_map]

theorem ofRunes_eq_sum (width : Width) (rs : List Rune) :
    ofRunes width rs = (rs.map fun r => width r.point).sum := by
  rw [ofRunes, List.sum_eq_foldr, List.foldr_map]

theorem ofText_append (width : Width) (t u : Text) :
    ofText width (t ++ u) = ofText width t + ofText width u := by
  simp [ofText_eq_sum]

theorem ofRunes_append (width : Width) (rs rs' : List Rune) :
    ofRunes width (rs ++ rs') = ofRunes width rs + ofRunes width rs' := by
  simp [ofRunes_eq_sum]

theorem ofRunes_of_points (width : Width) {rs : List Rune} {t : Text}
    (h : rs.map Rune.point = t.map some) : ofRunes width rs = ofText width t := by
  have hmap : (rs.map Rune.point).map width = (t.map some).map width := congrArg (List.map width) h
  rw [List.map_map, List.map_map] at hmap
  rw [ofRunes_eq_sum, ofText_eq_sum]
  exact congrArg List.sum hmap

theorem ofBytes_eq_ofText (width : Width) (data : Bytes) :
    ofBytes width data = ofText width (decode data) :=
  ofRunes_of_points width (map_point_runes data)

theorem ofRunes_take (width : Width) (data : Bytes) (i : Nat) :
    ofRunes width ((runes data).take i) = ofText width ((decode data).take i) := by
  refine ofRunes_of_points width ?_
  rw [List.map_take, map_point_runes, List.map_take]

theorem ofBytes_utf8 (width : Width) {t : Text} (h : ∀ c ∈ t, c.isSurrogate = false) :
    ofBytes width t.utf8 = ofText width t := by
  rw [ofBytes_eq_ofText, decode_utf8 h]

/-- In every width, data measure what the text measures that they are read as, malformed bytes
included, and the encoding of a text measures what the text measures. -/
theorem measured_alike :
    (∀ (width : Width) (data : Bytes), ofBytes width data = ofText width (decode data)) ∧
      ∀ (width : Width) (t : Text), (∀ c ∈ t, c.isSurrogate = false) →
        ofBytes width t.utf8 = ofText width t :=
  ⟨ofBytes_eq_ofText, fun width _ h => ofBytes_utf8 width h⟩

/-- Widths below zero, of code points that take one, three and two bytes. -/
theorem measured_alike_negative :
    let width : Width := fun r => if r = some (.ofChar '日') then -7 else 2
    ofBytes width (Text.utf8 "a日é") = -3 := by
  intro width
  exact (measured_alike.2 width "a日é" (by decide)).trans (by decide)

/-! ### Display width -/

/-- Printable ASCII. -/
def IsPrintable (c : CodePoint) : Prop := 0x20 ≤ c.val ∧ c.val ≤ 0x7E

/-- The control characters of ASCII. -/
def IsControl (c : CodePoint) : Prop := c.val < 0x20 ∨ c.val = 0x7F

/-- What a library says about ASCII: one cell for what is printed, and none for what controls. -/
structure AsciiWidth (wcwidth : Width) : Prop where
  printable : ∀ c, IsPrintable c → wcwidth (some c) = 1
  control : ∀ c, IsControl c → wcwidth (some c) ≤ 0

variable {wcwidth : Width}

theorem display_nonneg (wcwidth : Width) (r : Option CodePoint) : 0 ≤ display wcwidth r := by
  unfold display
  split <;> omega

theorem display_of_isPrintable (h : AsciiWidth wcwidth) {c : CodePoint} (hc : IsPrintable c) :
    display wcwidth (some c) = 1 := by
  rw [display, h.printable c hc]
  rfl

theorem display_of_isControl (h : AsciiWidth wcwidth) {c : CodePoint} (hc : IsControl c) :
    display wcwidth (some c) = 0 :=
  if_neg (Int.not_lt.2 (h.control c hc))

theorem ofText_display (h : AsciiWidth wcwidth) {t : Text} (ht : ∀ c ∈ t, IsPrintable c) :
    ofText (display wcwidth) t = t.length := by
  induction t with
  | nil => rfl
  | cons c t ih =>
    have hc := display_of_isPrintable h (ht c (by simp))
    have hrest := ih fun d hd => ht d (by simp [hd])
    rw [ofText, List.foldr_cons, hc, List.length_cons]
    rw [ofText] at hrest
    omega

theorem ofText_display_nonneg (wcwidth : Width) (t : Text) : 0 ≤ ofText (display wcwidth) t := by
  rw [ofText_eq_sum]
  refine List.sum_nonneg fun n hn => ?_
  obtain ⟨c, -, rfl⟩ := List.mem_map.1 hn
  exact display_nonneg wcwidth _

theorem isPrintable_of_mem_spaces {n : Nat} {c : CodePoint} (h : c ∈ Text.spaces n) :
    IsPrintable c := by
  rw [List.eq_of_mem_replicate h]
  exact ⟨by decide, by decide⟩

theorem isPrintable_of_mem_ofNat {n : Nat} {c : CodePoint} (h : c ∈ Text.ofNat n) :
    IsPrintable c := by
  obtain ⟨hlow, hhigh⟩ := Text.val_of_mem_ofNat h
  exact ⟨Nat.le_trans (by decide) hlow, Nat.le_trans hhigh (by decide)⟩

/-! ### The tables -/

/-- No number between `low` and `high` is in ranges that leave out that stretch. -/
theorem not_inRanges_of_all {ranges : List (Nat × Nat)} {low high n : Nat}
    (h : (ranges.all fun r => r.2 < low || high < r.1) = true) (hlow : low ≤ n) (hhigh : n ≤ high) :
    inRanges n ranges = false := by
  rw [inRanges, List.any_eq_false]
  intro r hr hin
  have hout := List.all_eq_true.1 h r hr
  simp only [Bool.or_eq_true, Bool.and_eq_true, decide_eq_true_eq] at hin hout
  omega

theorem tabled_of_isControl {c : CodePoint} (h : IsControl c) : tabled (some c) ≤ 0 := by
  unfold tabled
  dsimp only
  split
  · decide
  next hshown =>
  simp only [Bool.or_eq_true, Bool.and_eq_true, decide_eq_true_eq] at hshown
  have hval : c.val = 0 := by
    rcases h with hlow | hdelete <;> omega
  rw [hval]
  decide +kernel

theorem asciiWidth_tabled : AsciiWidth tabled := by
  refine ⟨fun c h => ?_, fun c h => tabled_of_isControl h⟩
  have hzero : inRanges c.val zeroRanges = false :=
    not_inRanges_of_all (by decide +kernel) h.1 h.2
  have hwide : inRanges c.val wideRanges = false :=
    not_inRanges_of_all (by decide +kernel) h.1 h.2
  have hlow := h.1
  have hhigh := h.2
  have hcontrol : ((1 ≤ c.val && c.val ≤ 0x1F) || (0x7F ≤ c.val && c.val ≤ 0x9F)) = false := by
    simp only [Bool.or_eq_false_iff, Bool.and_eq_false_iff, decide_eq_false_iff_not]
    omega
  simp [tabled, hcontrol, hzero, hwide]

end Cells

end CaretReport
