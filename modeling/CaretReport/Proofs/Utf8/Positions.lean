import CaretReport.Proofs.Utf8.Agreement

/-!
# Reading along positions

Lenient reading can also move an offset along the whole data (`Scan`). The byte there announces a
length, and that many bytes are one rune if the data go so far and strict reading accepts them. An
offset below zero counts from the end, for a byte and for both ends of a slice. No rune moves it
past the end (`bounds_of_runeAt?`), so it lands on the end exactly. From a place on, these are the
runes of what stands behind the place: `scan_runes`.
-/

namespace CaretReport.Utf8

/-- The place that an offset means. -/
def place (data : Bytes) (pos : Int) : Int := if pos < 0 then pos + data.length else pos

def behind (data : Bytes) (pos : Int) : Bytes := data.drop (place data pos).toNat

def byteAt? (data : Bytes) (pos : Int) : Option UInt8 :=
  if place data pos < 0 then none else (behind data pos).head?

/-- The bytes between two offsets, none if the first of them means the later place. -/
def slice (data : Bytes) (start stop : Int) : Bytes :=
  (behind data start).take ((place data stop).toNat - (place data start).toNat)

/-- The rune at an offset that holds byte `b`. -/
def runeOf (data : Bytes) (pos : Int) (b : UInt8) : Rune :=
  match Lead.ofByte? b with
  | none => .malformed
  | some lead =>
    if lead.size = 1 then ⟨some (.ofNat b.toNat), 1⟩
    else if data.length < pos + lead.size then .malformed
    else match read (slice data pos (pos + lead.size)) with
      | .ok [] => ⟨none, lead.size⟩
      | .ok [c] => ⟨some c, lead.size⟩
      | _ => .malformed

/-- The rune at an offset, if there is a byte. -/
def runeAt? (data : Bytes) (pos : Int) : Option Rune := (byteAt? data pos).map (runeOf data pos)

/-- The runes that are read while the offset moves from `pos` to the end. -/
inductive Scan (data : Bytes) : Int → List Rune → Prop
  | done {pos : Int} (h : data.length ≤ pos) : Scan data pos []
  | step {pos : Int} {r : Rune} {rs : List Rune} (h : pos < data.length)
    (hr : runeAt? data pos = some r) (hrest : Scan data (pos + r.size) rs) : Scan data pos (r :: rs)

variable {c : CodePoint} {bs rest data : Bytes} {pos start : Int} {b : UInt8} {r : Rune}
  {rs : List Rune} {lead : Lead} {n : Nat}

/-! ### One step -/

theorem Lead.size_le (h : Lead.ofByte? b = some lead) : lead.size ≤ 4 := by
  rcases ofByte?_cases h with ⟨v, hv, rfl⟩ | ⟨k, hk, hk', rfl⟩ | ⟨k, hk, rfl⟩ | ⟨k, hk, rfl⟩
  · rw [ofByte?_one hv] at h; cases h; simp
  · rw [ofByte?_two hk hk'] at h; cases h; simp
  · rw [ofByte?_three hk] at h; cases h; simp
  · rw [ofByte?_four hk] at h; cases h; simp

theorem byteAt?_eq_none_iff (h : pos < data.length) :
    byteAt? data pos = none ↔ pos < -data.length := by
  have hplace : place data pos < data.length := by
    unfold place
    split <;> omega
  have hneg : place data pos < 0 ↔ pos < -data.length := by
    unfold place
    split <;> omega
  rw [← hneg, byteAt?]
  split
  · next hout => exact ⟨fun _ => hout, fun _ => rfl⟩
  · next hin =>
    rw [behind, List.head?_eq_none_iff, List.drop_eq_nil_iff]
    omega

/-- A rune has one to four bytes, and ends inside the data. -/
theorem bounds_of_runeAt? (h : pos < data.length) (hr : runeAt? data pos = some r) :
    1 ≤ r.size ∧ r.size ≤ 4 ∧ pos + r.size ≤ data.length := by
  have hone : 1 ≤ Rune.malformed.size ∧ Rune.malformed.size ≤ 4 ∧
      pos + Rune.malformed.size ≤ data.length := ⟨Nat.le_refl 1, by decide, by
    have hsize : Rune.malformed.size = 1 := rfl
    omega⟩
  obtain ⟨b, -, rfl⟩ := Option.map_eq_some_iff.1 hr
  unfold runeOf
  split
  · exact hone
  next lead hlead =>
  have hpos := Lead.size_pos hlead
  have hle := Lead.size_le hlead
  split
  · exact hone
  split
  · exact hone
  next hend =>
  split
  · exact ⟨hpos, hle, Int.not_lt.1 hend⟩
  · exact ⟨hpos, hle, Int.not_lt.1 hend⟩
  · exact hone

/-! ### Whole runs -/

namespace Scan

theorem bounds_of_mem (h : Scan data pos rs) (hr : r ∈ rs) : 1 ≤ r.size ∧ r.size ≤ 4 := by
  induction h with
  | done => cases hr
  | step hlt hstep _ ih =>
    rcases List.mem_cons.1 hr with rfl | hr
    · obtain ⟨hlow, hhigh, -⟩ := bounds_of_runeAt? hlt hstep
      exact ⟨hlow, hhigh⟩
    · exact ih hr

theorem span_eq (h : Scan data pos rs) : (span rs : Int) = max 0 (data.length - pos) := by
  induction h with
  | done h =>
    rw [span_nil]
    omega
  | step hlt hstep _ ih =>
    obtain ⟨-, -, hend⟩ := bounds_of_runeAt? hlt hstep
    rw [span_cons, Nat.cast_add, ih]
    omega

theorem end_le (h : Scan data pos rs) {i : Nat} (hi : i < rs.length) :
    pos + span (rs.take (i + 1)) ≤ data.length := by
  induction h generalizing i with
  | done => cases hi
  | @step pos r rs hlt hstep _ ih =>
    rw [List.take_succ_cons, span_cons, Nat.cast_add, ← Int.add_assoc]
    cases i with
    | zero =>
      obtain ⟨-, -, hend⟩ := bounds_of_runeAt? hlt hstep
      rw [List.take_zero, span_nil]
      omega
    | succ i => exact ih (Nat.lt_of_succ_lt_succ hi)

/-- The offset says what is read next, so there is one way to read. -/
theorem unique (h : Scan data pos rs) {rs' : List Rune} (h' : Scan data pos rs') : rs = rs' := by
  induction h generalizing rs' with
  | done hend =>
    cases h' with
    | done => rfl
    | step hlt => exact absurd hlt (Int.not_lt.2 hend)
  | step hlt hr _ ih =>
    cases h' with
    | done hend => exact absurd hlt (Int.not_lt.2 hend)
    | step _ hr' hrest' =>
      rw [hr] at hr'
      cases hr'
      rw [ih hrest']

end Scan

/-! ### What stands behind an offset -/

/-- The offset means a place in the data, and `rest` is what stands there. -/
structure Stands (data : Bytes) (pos : Int) (rest : Bytes) : Prop where
  inside : 0 ≤ place data pos
  eq : behind data pos = rest

theorem stands_natCast {n : Nat} (h : data.drop n = rest) : Stands data n rest := by
  have hat : place data n = n := if_neg (Int.not_lt.2 (Int.natCast_nonneg n))
  refine ⟨?_, ?_⟩
  · rw [hat]
    exact Int.natCast_nonneg n
  · rw [behind, hat, Int.toNat_natCast, h]

namespace Stands

variable (h : Stands data pos (b :: rest))
include h

theorem length_le : 0 ≤ pos → pos + (b :: rest).length = data.length := by
  intro hnonneg
  have hlen := congrArg List.length h.eq
  rw [behind, place, if_neg (Int.not_lt.2 hnonneg), List.length_drop, List.length_cons] at hlen
  rw [List.length_cons]
  omega

theorem lt_length : pos < data.length := by
  rcases Int.lt_or_le pos 0 with hneg | hnonneg
  · omega
  · have hlen := h.length_le hnonneg
    rw [List.length_cons] at hlen
    omega

theorem runeAt?_eq : runeAt? data pos = some (runeOf data pos b) := by
  rw [runeAt?, byteAt?, if_neg (Int.not_lt.2 h.inside), h.eq]
  rfl

theorem scan (hr : runeOf data pos b = r) (hrest : Scan data (pos + r.size) rs) :
    Scan data pos (r :: rs) :=
  .step h.lt_length (hr ▸ h.runeAt?_eq) hrest

end Stands

/-! ### Slices -/

/-- The ends of a slice mean places as far apart as they are, if they count from the same side. -/
theorem place_sub (hin : 0 ≤ place data pos) (hside : 0 ≤ pos ∨ pos + n < 0) :
    (place data (pos + n)).toNat - (place data pos).toNat = n := by
  unfold place at hin ⊢
  split at hin <;> split <;> omega

/-- Otherwise the slice holds what the data lack in length, if anything. -/
theorem place_sub_of_wrap (hin : 0 ≤ place data pos) (hneg : pos < 0) (hwrap : 0 ≤ pos + n) :
    (place data (pos + n)).toNat - (place data pos).toNat = n - data.length := by
  unfold place at hin ⊢
  split at hin <;> split <;> omega

theorem place_sub_pos (hin : 0 ≤ place data pos) (hn : 0 < n)
    (hlong : pos < 0 → 0 ≤ pos + n → data.length < n) :
    0 < (place data (pos + n)).toNat - (place data pos).toNat := by
  rcases Int.lt_or_le pos 0 with hneg | hnonneg
  · rcases Int.lt_or_le (pos + n) 0 with hside | hwrap
    · rw [place_sub hin (.inr hside)]
      exact hn
    · have hlen := hlong hneg hwrap
      rw [place_sub_of_wrap hin hneg hwrap]
      omega
  · rw [place_sub hin (.inl hnonneg)]
    exact hn

/-! ### The rune of an encoding and of a malformed byte -/

theorem Encodes.eq_ofNat (henc : Encodes c [b]) : c = .ofNat b.toNat := by
  cases henc with
  | @one v hv => rw [Nat.toUInt8, UInt8.toNat_ofNat', Nat.mod_eq_of_lt (by omega)]

theorem runeOf_encoded {ts : Bytes} (henc : Encodes c (b :: ts))
    (h : Stands data pos (b :: ts ++ rest)) (hend : pos + (b :: ts).length ≤ data.length)
    (hside : ts = [] ∨ 0 ≤ pos ∨ pos + (b :: ts).length < 0) :
    runeOf data pos b = ⟨some c, (b :: ts).length⟩ := by
  obtain ⟨lead, hlead, hfits, -⟩ := encodes_cons_iff.1 henc
  have hsize : lead.size = (b :: ts).length := hfits.length.symm
  rw [runeOf, hlead]
  dsimp only
  rw [hsize]
  by_cases hts : ts = []
  · subst hts
    rw [henc.eq_ofNat]
    rfl
  · have hone : ¬ (b :: ts).length = 1 :=
      fun hone => hts (List.length_eq_zero_iff.1 (Nat.succ.inj hone))
    have hslice : slice data pos (pos + (b :: ts).length) = b :: ts := by
      rw [slice, h.eq, place_sub h.inside (hside.resolve_left hts), List.take_left]
    have hread : read (b :: ts) = .ok [c] := by
      have hwhole := readFrom_encoded henc 0 []
      rw [List.append_nil] at hwhole
      exact hwhole
    simp only [hone, if_neg (Int.not_lt.2 hend), hslice, hread, ↓reduceIte]

theorem runeOf_broken (hb : Broken (b :: rest)) (h : Stands data pos (b :: rest))
    (hlong : pos < 0 → ∀ lead, Lead.ofByte? b = some lead → 1 < lead.size → 0 ≤ pos + lead.size →
      data.length < lead.size) : runeOf data pos b = .malformed := by
  rw [runeOf]
  rcases hlead : Lead.ofByte? b with _ | lead
  · rfl
  have hpos := Lead.size_pos hlead
  dsimp only
  split
  · next hone =>
    have hfits : lead.Fits [] := hone
    exact absurd (List.cons_prefix_cons.2 ⟨rfl, List.nil_prefix⟩)
      (hb.not_prefix (encodes_cons_iff.2 ⟨lead, hlead, hfits, rfl⟩))
  next hone =>
  split
  · rfl
  -- the slice starts with the byte, so strict reading breaks where lenient reading does
  have hcount := place_sub_pos h.inside hpos fun hneg => hlong hneg lead hlead (by omega)
  obtain ⟨m, hm⟩ := Nat.exists_eq_add_one.2 hcount
  have hcut := hb.take (m + 1)
  rw [List.take_succ_cons] at hcut
  obtain ⟨e, he, -⟩ := readFrom_broken hcut 0
  have hread : read (slice data pos (pos + lead.size)) = .error e := by
    rw [slice, h.eq, hm, List.take_succ_cons]
    exact he
  rw [hread]

/-! ### From a place on -/

theorem scan_runes (data : Bytes) (n : Nat) : Scan data n (runes (data.drop n)) := by
  generalize hdrop : data.drop n = rest
  have hnonneg : (0 : Int) ≤ n := Int.natCast_nonneg n
  induction rest using runes_induction generalizing n with
  | nil =>
    rw [runes_nil]
    exact .done (Int.ofNat_le.2 (List.drop_eq_nil_iff.1 hdrop))
  | encoded c bs rest henc ih =>
    obtain ⟨b, ts, rfl⟩ := List.exists_cons_of_ne_nil henc.ne_nil
    have hat : Stands data n (b :: (ts ++ rest)) := stands_natCast hdrop
    have hend : (n : Int) + (b :: ts).length ≤ data.length := by
      have hlen := hat.length_le hnonneg
      rw [List.length_cons, List.length_append] at hlen
      rw [List.length_cons]
      omega
    have hnext : data.drop (n + (b :: ts).length) = rest := by
      rw [← List.drop_drop, hdrop, List.drop_left]
    rw [runes_encoded henc]
    exact hat.scan (runeOf_encoded henc hat hend (.inr (.inl hnonneg)))
      (ih _ hnext (Int.natCast_nonneg _))
  | broken b rest hb ih =>
    have hat := stands_natCast hdrop
    have hnext : data.drop (n + 1) = rest := by
      rw [← List.drop_drop, hdrop]
      rfl
    rw [runes_broken hb]
    exact hat.scan (runeOf_broken hb hat fun hneg => absurd hneg (Int.not_lt.2 hnonneg))
      (ih _ hnext (Int.natCast_nonneg _))

end CaretReport.Utf8
