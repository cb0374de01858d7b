import CaretReport.Proofs.Utf8.Positions
import CaretReport.Source.Basic

/-!
# Reading from any offset

An offset below zero counts from the end. A sequence that reaches the end from there has an empty
slice, and its rune is empty. Moving the offset along the data gives what `runesFrom` gives
(`scan_runesFrom`), from every offset at which there is a byte or nothing is left to read.
-/

namespace CaretReport.Utf8

variable {c : CodePoint} {bs rest data : Bytes} {pos start : Int} {b : UInt8} {r : Rune}
  {rs : List Rune} {lead : Lead} {n : Nat}

/-! ### Sequences that cross the end -/

theorem stands_of_suffix (h : b :: rest <:+ data) :
    Stands data (-((b :: rest).length : Int)) (b :: rest) := by
  have hle := h.length_le
  have hat : place data (-((b :: rest).length : Int)) =
      ((data.length - (b :: rest).length : Nat) : Int) := by
    rw [List.length_cons] at hle ⊢
    unfold place
    split <;> omega
  refine ⟨?_, ?_⟩
  · rw [hat]
    exact Int.natCast_nonneg _
  · rw [behind, hat, Int.toNat_natCast]
    exact (List.suffix_iff_eq_drop.1 h).symm

/-- A sequence that reaches the end from below zero has an empty slice. -/
theorem runeOf_crossing (hlead : Lead.ofByte? b = some lead) (hsize : 1 < lead.size)
    (hin : 0 ≤ place data pos) (hneg : pos < 0) (hwrap : 0 ≤ pos + lead.size)
    (hlen : lead.size ≤ data.length) : runeOf data pos b = ⟨none, lead.size⟩ := by
  have hslice : slice data pos (pos + lead.size) = [] := by
    rw [slice, place_sub_of_wrap hin hneg hwrap, Nat.sub_eq_zero_of_le hlen, List.take_zero]
  have hend : ¬ data.length < pos + lead.size := by omega
  have hone : lead.size ≠ 1 := by omega
  have hread : read [] = .ok [] := rfl
  simp only [runeOf, hlead, hone, hend, hslice, hread, ↓reduceIte]

theorem crossing?_eq_some_iff {m : Nat} : crossing? data (b :: rest) = some m ↔
    ∃ lead, Lead.ofByte? b = some lead ∧ 1 < lead.size ∧ rest.length < lead.size ∧
      lead.size ≤ data.length ∧ m = lead.size := by
  simp only [crossing?, List.head?_cons, Option.bind_eq_bind, Option.bind_some,
    Option.bind_eq_some_iff, Option.ite_none_right_eq_some, List.drop_eq_nil_iff, List.length_cons,
    Option.some_inj, ne_eq]
  refine exists_congr fun lead => and_congr_right fun _ => ?_
  omega

theorem not_reaches_of_crossing? (h : crossing? data (b :: rest) = none)
    (hlead : Lead.ofByte? b = some lead) (hsize : 1 < lead.size) (hlen : lead.size ≤ data.length) :
    lead.size ≤ rest.length := by
  by_contra hreach
  have hsome : crossing? data (b :: rest) = some lead.size :=
    crossing?_eq_some_iff.2 ⟨lead, hlead, hsize, Nat.not_le.1 hreach, hlen, rfl⟩
  rw [h] at hsome
  cases hsome

/-- An encoding of several bytes ends in front of the end, otherwise it would cross. -/
theorem Encodes.eq_nil_or_of_crossing? {ts tail : Bytes} (henc : Encodes c (b :: ts))
    (h : crossing? data (b :: (ts ++ tail)) = none)
    (hle : (b :: (ts ++ tail)).length ≤ data.length) : ts = [] ∨ 0 < tail.length := by
  obtain ⟨lead, hlead, hfits, -⟩ := encodes_cons_iff.1 henc
  have hsize := hfits.length
  rcases eq_or_ne ts [] with hts | hts
  · exact .inl hts
  · have hpos := List.length_pos_iff.2 hts
    rw [List.length_cons, List.length_append] at hle
    have hreach := not_reaches_of_crossing? h hlead (by omega) (by omega)
    rw [List.length_append] at hreach
    exact .inr (by omega)

/-- From below zero, where `rest` is what stands behind the offset. -/
theorem scan_runesBefore (h : rest <:+ data) :
    Scan data (-(rest.length : Int)) (runesBefore data rest) := by
  induction rest using runesBefore.induct data with
  | case1 =>
    rw [runesBefore]
    exact scan_runes data 0
  | case2 b more n hcross =>
    obtain ⟨lead, hlead, hsize, hreach, hlen, rfl⟩ := crossing?_eq_some_iff.1 hcross
    have hat := stands_of_suffix h
    rw [runesBefore, hcross]
    rw [List.length_cons] at hat ⊢
    refine hat.scan (runeOf_crossing hlead hsize hat.inside (by omega) (by omega) hlen) ?_
    have hnext : -((more.length + 1 : Nat) : Int) + lead.size =
        ((lead.size - (more.length + 1) : Nat) : Int) := by omega
    rw [hnext]
    exact scan_runes data _
  | case3 b more hcross c n hfirst ih =>
    obtain ⟨bs, henc, ⟨tail, htail⟩, rfl⟩ := first?_eq_some_iff.1 hfirst
    obtain ⟨a, ts, rfl⟩ := List.exists_cons_of_ne_nil henc.ne_nil
    rw [List.cons_append] at htail
    obtain ⟨rfl, rfl⟩ := List.cons.inj htail
    have hle := h.length_le
    have hside := henc.eq_nil_or_of_crossing? hcross hle
    have hat := stands_of_suffix h
    have hdrop : (ts ++ tail).drop ((a :: ts).length - 1) = tail := List.drop_left
    rw [hdrop] at ih
    rw [runesBefore, hcross, hfirst]
    dsimp only
    rw [hdrop]
    rw [List.length_cons, List.length_append] at hle hat ⊢
    refine hat.scan (runeOf_encoded henc hat (by rw [List.length_cons]; omega) ?_) ?_
    · rw [List.length_cons]
      exact hside.imp_right fun hlt => .inr (by omega)
    · have hnext : -((ts.length + tail.length + 1 : Nat) : Int) + (a :: ts).length =
          -(tail.length : Int) := by
        rw [List.length_cons]
        omega
      rw [hnext]
      exact ih ((List.suffix_append (a :: ts) tail).trans h)
  | case4 b more hcross hfirst ih =>
    have hb := first?_eq_none_iff.1 hfirst
    have hat := stands_of_suffix h
    rw [runesBefore, hcross, hfirst]
    rw [List.length_cons] at hat ⊢
    refine hat.scan (runeOf_broken hb hat fun _ lead hlead hsize hwrap => ?_) ?_
    · by_contra hlen
      have hreach := not_reaches_of_crossing? hcross hlead hsize (Nat.not_lt.1 hlen)
      omega
    · have hnext :
          -((more.length + 1 : Nat) : Int) + Rune.malformed.size = -(more.length : Int) := by
        have hone : Rune.malformed.size = 1 := rfl
        omega
      rw [hnext]
      exact ih ((List.suffix_cons b more).trans h)

theorem scan_runesFrom (h : runesFrom data start = .ok rs) : Scan data start rs := by
  cases start with
  | ofNat n =>
    cases h
    exact scan_runes data n
  | negSucc k =>
    rw [runesFrom] at h
    split at h
    · next hk =>
      cases h
      have hsuffix : data.drop (data.length - (k + 1)) <:+ data := List.drop_suffix _ _
      have hlen : (data.drop (data.length - (k + 1))).length = k + 1 := by
        rw [List.length_drop]
        omega
      have hscan := scan_runesBefore hsuffix
      rw [hlen] at hscan
      exact hscan
    · split at h <;> cases h

theorem exists_runesFrom_error_iff :
    (∃ f, runesFrom data start = .error f) ↔ start < -data.length := by
  cases start with
  | ofNat n =>
    constructor
    · rintro ⟨f, hf⟩
      cases hf
    · intro h
      have hnonneg : (0 : Int) ≤ Int.ofNat n := Int.natCast_nonneg n
      omega
  | negSucc k =>
    rw [runesFrom]
    split
    · constructor
      · rintro ⟨f, hf⟩
        cases hf
      · intro h
        omega
    · refine ⟨fun _ => by omega, fun _ => ?_⟩
      split <;> exact ⟨_, rfl⟩

theorem isA_index_offset (f : OffsetFault) : f.exception.isA .index = true := by
  cases f <;> rfl

theorem isA_index_marker_iff {f : Marker.Fault} :
    f.exception.isA .index = true ↔ ∃ o, f = .offset o := by
  cases f with
  | offset o => exact ⟨fun _ => ⟨o, rfl⟩, fun _ => isA_index_offset o⟩
  | text f =>
    refine ⟨fun h => ?_, fun ⟨o, ho⟩ => by cases ho⟩
    cases f <;> exact absurd h Bool.false_ne_true

theorem exists_atColumn_offset_iff {m : Machine} {width : Width} {glyphs : Glyphs} {column : Int} :
    (∃ f, Marker.atColumn m width glyphs data column = .error (.offset f)) ↔
      column ≤ -data.length := by
  have hstart : column - 1 < -(data.length : Int) ↔ column ≤ -data.length := by omega
  rw [← hstart, ← exists_runesFrom_error_iff, Marker.atColumn]
  cases runesFrom data (column - 1) with
  | error f => exact ⟨fun _ => ⟨f, rfl⟩, fun _ => ⟨f, rfl⟩⟩
  | ok rs =>
    constructor
    · rintro ⟨f, hf⟩
      rcases hdraw : Marker.draw m glyphs (Cells.ofBytes width (upTo data (column - 1)))
          (Cells.ofRunes width (Marker.token rs)) with f' | t
      · simp only [hdraw] at hf
        cases hf
      · simp only [hdraw] at hf
        cases hf
    · rintro ⟨f, hf⟩
      cases hf

theorem isA_index_of_atColumn {m : Machine} {width : Width} {glyphs : Glyphs} {column : Int}
    {f : Marker.Fault} (hf : Marker.atColumn m width glyphs data column = .error f) :
    f.exception.isA .index = true ↔ column ≤ -data.length := by
  rw [isA_index_marker_iff, ← exists_atColumn_offset_iff, hf]
  exact exists_congr fun o => ⟨fun h => congrArg Except.error h, fun h => Except.error.inj h⟩

/-- Reading fails exactly at an offset in front of the first byte, where there is no byte to start
with, and what it raises is about an index. From every other offset it gives the runes that are read
while the offset moves. Each of them has one to four bytes and ends inside the data, and the last of
them ends where the data end. A marker fails for its offset exactly if its column is as far below
one, and raises the same then. -/
theorem runesFrom_anywhere (data : Bytes) (start : Int) :
    ((∃ f, runesFrom data start = .error f) ↔ start < -data.length) ∧
      (∀ f, runesFrom data start = .error f → f.exception.isA .index = true) ∧
      ((∃ f, runesFrom data start = .error f) ↔
        start < data.length ∧ byteAt? data start = none) ∧
      (-data.length ≤ start → ∃ rs, runesFrom data start = .ok rs ∧ Scan data start rs ∧
        (∀ r ∈ rs, 1 ≤ r.size ∧ r.size ≤ 4) ∧ (span rs : Int) = max 0 (data.length - start) ∧
        ∀ i < rs.length, start + span (rs.take (i + 1)) ≤ data.length) ∧
      ∀ (m : Machine) (width : Width) (glyphs : Glyphs) (column : Int),
        ((∃ f, Marker.atColumn m width glyphs data column = .error (.offset f)) ↔
          column ≤ -data.length) ∧
        ∀ f, Marker.atColumn m width glyphs data column = .error f →
          (f.exception.isA .index = true ↔ column ≤ -data.length) := by
  refine ⟨exists_runesFrom_error_iff, fun f _ => isA_index_offset f, ?_, fun hstart => ?_,
    fun _ _ _ _ => ⟨exists_atColumn_offset_iff, fun _ hf => isA_index_of_atColumn hf⟩⟩
  · rw [exists_runesFrom_error_iff]
    refine ⟨fun h => ?_, fun ⟨hlt, hnone⟩ => (byteAt?_eq_none_iff hlt).1 hnone⟩
    have hlt : start < data.length := by omega
    exact ⟨hlt, (byteAt?_eq_none_iff hlt).2 h⟩
  · rcases hruns : runesFrom data start with f | rs
    · have hout := exists_runesFrom_error_iff.1 ⟨f, hruns⟩
      omega
    · have hscan := scan_runesFrom hruns
      exact ⟨rs, rfl, hscan, fun r hr => hscan.bounds_of_mem hr, hscan.span_eq,
        fun i hi => hscan.end_le hi⟩

/-- From below zero, an encoding that ends the data is an empty rune, and is then read once more. -/
theorem runesFrom_anywhere_crossing :
    Scan (Text.utf8 "日") (-3) [⟨none, 3⟩, ⟨some '日', 3⟩] := by
  obtain ⟨-, -, -, hruns, -⟩ := runesFrom_anywhere (Text.utf8 "日") (-3)
  obtain ⟨rs, hrs, hscan, -⟩ := hruns (by decide)
  have hread : runesFrom (Text.utf8 "日") (-3) = .ok [⟨none, 3⟩, ⟨some '日', 3⟩] := by cbv
  rw [hread] at hrs
  cases hrs
  exact hscan

end CaretReport.Utf8
