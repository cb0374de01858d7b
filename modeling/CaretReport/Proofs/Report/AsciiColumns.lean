import CaretReport.Proofs.Report.CellColumns
import CaretReport.Proofs.Source.Token

/-!
# Columns behind ASCII

If the library gives every printed character of ASCII one cell, and control characters none or less
(`Cells.AsciiWidth`), then cells and bytes of ASCII differ by the control characters alone
(`Cells.ofBytes_add_controls`). So a column that counts cells is the column of its byte exactly if
no control character stands in front of it, and the caret has as many spaces in front of it as there
are other bytes: `Marker.atColumn_behind_ascii`.
-/

namespace CaretReport

namespace Utf8

/-- The bytes of ASCII that a terminal does not show, the tabulator among them. -/
def isControl (b : UInt8) : Bool := b.toNat < 0x20 || b.toNat = 0x7F

/-- How many control characters the data hold. -/
def controls (data : Bytes) : Nat := data.countP isControl

end Utf8

namespace Cells

open Utf8

variable {wcwidth : Width} {b : UInt8} {data : Bytes}

theorem ofBytes_ascii_cons (width : Width) (hb : IsAscii b) (rest : Bytes) :
    ofBytes width (b :: rest) = width (some (ascii b)) + ofBytes width rest := by
  rw [ofBytes_eq_ofText, hb.decode_cons, ofBytes_eq_ofText]
  rfl

theorem val_ascii (hb : IsAscii b) : (ascii b).val = b.toNat := by
  have hlt : b.toNat < 0x80 := hb
  exact CodePoint.val_ofNat (by omega)

theorem display_control (h : AsciiWidth wcwidth) (hb : IsAscii b) (hcontrol : isControl b = true) :
    display wcwidth (some (ascii b)) = 0 := by
  refine display_of_isControl h ?_
  simp only [isControl, Bool.or_eq_true, decide_eq_true_eq] at hcontrol
  rwa [IsControl, val_ascii hb]

theorem display_shown (h : AsciiWidth wcwidth) (hb : IsAscii b) (hshown : isControl b = false) :
    display wcwidth (some (ascii b)) = 1 := by
  refine display_of_isPrintable h ?_
  have hlt : b.toNat < 0x80 := hb
  simp only [isControl, Bool.or_eq_false_iff, decide_eq_false_iff_not] at hshown
  rw [IsPrintable, val_ascii hb]
  omega

/-- Behind ASCII, the cells and the control characters are as many as the bytes. -/
theorem ofBytes_add_controls (h : AsciiWidth wcwidth) (hdata : ∀ b ∈ data, IsAscii b) :
    ofBytes (display wcwidth) data + controls data = data.length := by
  induction data with
  | nil => rw [ofBytes, runes_nil]; rfl
  | cons b data ih =>
    have hb := hdata b List.mem_cons_self
    have hrest := ih fun b' hb' => hdata b' (List.mem_cons_of_mem b hb')
    rw [ofBytes_ascii_cons _ hb, List.length_cons, Nat.cast_succ]
    cases hcontrol : isControl b with
    | true =>
      have hcount : controls (b :: data) = controls data + 1 := List.countP_cons_of_pos hcontrol
      rw [display_control h hb hcontrol, hcount, Nat.cast_succ]
      omega
    | false =>
      have hcount : controls (b :: data) = controls data :=
        List.countP_cons_of_neg (by rw [hcontrol]; exact Bool.false_ne_true)
      rw [display_shown h hb hcontrol, hcount]
      omega

theorem controls_eq_zero_iff : controls data = 0 ↔ ∀ b ∈ data, isControl b = false := by
  simp only [controls, List.countP_eq_zero, Bool.not_eq_true]

end Cells

namespace Marker

open Utf8 Cells

/-- If all bytes in front of a column are ASCII, their cells and their control characters are
together as many as the bytes. So the column is the one that counts cells exactly if there is no
control character among them. The marker has as many spaces in front of its caret as there are other
bytes. -/
theorem atColumn_behind_ascii (m : Machine) {wcwidth : Width} (hwcwidth : AsciiWidth wcwidth)
    (glyphs : Glyphs) (line : Bytes) (column : Int) (hpos : 1 ≤ column)
    (hend : column ≤ line.length + 1) (h : ∀ b ∈ line.take (column - 1).toNat, IsAscii b) :
    let start := (column - 1).toNat
    let before := line.take start
    ofBytes (display wcwidth) before + controls before = column - 1 ∧
      (ofBytes (display wcwidth) before + 1 = column ↔ ∀ b ∈ before, isControl b = false) ∧
      Marks m glyphs (column - 1 - controls before)
        (ofRunes (display wcwidth) (token (runes (line.drop start))))
        (atColumn m (display wcwidth) glyphs line column) ∧
      (Slim (display wcwidth) → m.HasRoom (room glyphs line) →
        ∃ k, atColumn m (display wcwidth) glyphs line column =
          .ok (Text.spaces (start - controls before) ++ glyphs.caret ++
            Text.times k glyphs.filler)) := by
  obtain ⟨start, rfl⟩ : ∃ start : Nat, column = start + 1 := ⟨(column - 1).toNat, by omega⟩
  simp only [Int.add_sub_cancel, Int.toNat_natCast] at h ⊢
  have hlen : (line.take start).length = start := List.length_take_of_le (by omega)
  have hcells := ofBytes_add_controls hwcwidth h
  rw [hlen] at hcells
  have hgap : ofBytes (display wcwidth) (line.take start) =
      (start : Int) - controls (line.take start) := by omega
  have hmarks := marks_atColumn m (display wcwidth) glyphs line start
  refine ⟨hcells, ?_, ?_, fun hslim hroom => ?_⟩
  · rw [← controls_eq_zero_iff]
    omega
  · rwa [hgap] at hmarks
  · have hdrawn := hmarks.drawn (drawsAt_of_hasRoom hslim hroom start)
    have hspaces : ((start : Int) - controls (line.take start)).toNat =
        start - controls (line.take start) := by omega
    rw [mark, hgap, hspaces] at hdrawn
    exact ⟨_, hdrawn⟩

/-- A tabulator between two letters: three bytes, two cells. -/
theorem atColumn_behind_ascii_tab :
    ofBytes (display tabled) [0x61, 0x09, 0x62] = 2 ∧
      atColumn .usual (display tabled) {} [0x61, 0x09, 0x62, 0x63, 0x64] 4 = .ok "  ^~" := by
  let line : Bytes := [0x61, 0x09, 0x62, 0x63, 0x64]
  have hascii : ∀ b ∈ line.take (4 - 1 : Int).toNat, IsAscii b := by decide +kernel
  obtain ⟨hcells, -, hmarks, -⟩ := atColumn_behind_ascii .usual asciiWidth_tabled {} line 4
    (by decide) (by decide) hascii
  have hone : controls [0x61, 0x09, 0x62] = 1 := by decide
  have hsum : ofBytes (display tabled) [0x61, 0x09, 0x62] + controls [0x61, 0x09, 0x62] = 3 :=
    hcells
  have htoken : ofRunes (display tabled) (token (runes (line.drop (4 - 1 : Int).toNat))) = 2 := by
    have hread : runes (line.drop (4 - 1 : Int).toNat) = [⟨some 'c', 1⟩, ⟨some 'd', 1⟩] := by cbv
    rw [hread]
    decide +kernel
  rw [hone] at hsum
  rw [htoken, show line.take (4 - 1 : Int).toNat = [0x61, 0x09, 0x62] from rfl, hone] at hmarks
  have hroom : Machine.usual.HasRoom 5 := Machine.hasRoom_usual (by decide)
  exact ⟨by omega, hmarks.drawn (draws_of_hasRoom hroom (g := 2) (k := 2) (by decide) (by decide)
    (by decide) (by decide) (by decide) (by decide))⟩

/-- Not every column behind ASCII counts cells: a tabulator takes none. -/
theorem not_forall_ofBytes_ascii :
    ¬ ∀ (line : Bytes) (column : Int), 1 ≤ column → column ≤ line.length + 1 →
      (∀ b ∈ line.take (column - 1).toNat, IsAscii b) →
      ofBytes (display tabled) (line.take (column - 1).toNat) = column - 1 ∧
        ∃ k, atColumn .usual (display tabled) {} line column =
          .ok (Text.spaces (column - 1).toNat ++ "^" ++ Text.times k "~") := by
  intro hall
  have hascii : ∀ b ∈ ([0x09, 0x66] : Bytes).take (2 - 1 : Int).toNat, IsAscii b := by
    decide +kernel
  obtain ⟨hcells, -⟩ := hall [0x09, 0x66] 2 (by decide) (by decide) hascii
  have hsum := ofBytes_add_controls asciiWidth_tabled hascii
  rw [hcells] at hsum
  exact absurd hsum (by decide)

end Marker

end CaretReport
