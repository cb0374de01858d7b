import CaretReport.Utf8.Strict
import CaretReport.Proofs.Utf8.RoundTrip

/-!
# Strict reading agrees with lenient reading

Between two sequences, strict reading takes an encoding in one go if one comes next
(`readFrom_encoded`), and otherwise fails at that very place, however far it looked
(`readFrom_broken`). So it reads the text of data without malformed runes, and in all other data it
stops where lenient reading meets the first of them: `read_of_not_mem`, `read_of_mem`.
-/

namespace CaretReport.Utf8

variable {c : CodePoint} {bs ts rest data : Bytes} {b : UInt8} {lead : Lead} {p : Pending}

/-! ### Inside a sequence -/

/-- The bytes are the ones that are missing from the sequence. -/
def Pending.Awaits (p : Pending) : Bytes → Prop
  | [] => False
  | t :: ts => p.low ≤ t.toNat ∧ t.toNat ≤ p.high ∧ (∀ u ∈ ts, isContinuation u = true) ∧
      ts.length = p.missing

/-- The code point of the sequence, if the bytes end it. -/
def Pending.point (p : Pending) (ts : Bytes) : CodePoint :=
  .ofNat (ts.foldl (fun v b => v * 64 + (b.toNat - 0x80)) p.bits)

/-- The sequence with one byte more, if that is not its last. -/
def Pending.next (p : Pending) (t : UInt8) (missing : Nat) : Pending :=
  ⟨p.offset, p.lead, p.more + 1, missing, p.bits * 64 + (t.toNat - 0x80), 0x80, 0xBF⟩

theorem Pending.point_next (p : Pending) (t : UInt8) (missing : Nat) (ts : Bytes) :
    (p.next t missing).point ts = p.point (t :: ts) := by
  simp only [point, next, List.foldl_cons]

theorem readFrom_last {t : UInt8} (offset : Nat) (hlow : p.low ≤ t.toNat) (hhigh : t.toNat ≤ p.high)
    (hmissing : p.missing = 0) (rest : Bytes) :
    readFrom offset (some p) (t :: rest) =
      (p.point [t] :: ·) <$> readFrom (offset + 1) none rest := by
  rw [readFrom, if_pos ⟨hlow, hhigh⟩, hmissing]
  rfl

theorem readFrom_next {t : UInt8} {m : Nat} (offset : Nat) (hlow : p.low ≤ t.toNat)
    (hhigh : t.toNat ≤ p.high) (hmissing : p.missing = m + 1) (rest : Bytes) :
    readFrom offset (some p) (t :: rest) = readFrom (offset + 1) (some (p.next t m)) rest := by
  rw [readFrom, if_pos ⟨hlow, hhigh⟩, hmissing]
  rfl

theorem Pending.awaits_cons {t : UInt8} {m : Nat} (hlow : p.low ≤ t.toNat)
    (hhigh : t.toNat ≤ p.high)
    (hmissing : p.missing = m + 1) : p.Awaits (t :: ts) ↔ (p.next t m).Awaits ts := by
  cases ts with
  | nil => simp [Awaits, hmissing]
  | cons u us => simp [Awaits, next, hlow, hhigh, hmissing, isContinuation, and_assoc]

theorem readFrom_awaits (h : p.Awaits ts) (offset : Nat) (rest : Bytes) :
    readFrom offset (some p) (ts ++ rest) =
      (p.point ts :: ·) <$> readFrom (offset + ts.length) none rest := by
  induction ts generalizing p offset with
  | nil => exact h.elim
  | cons t ts ih =>
    have hts := h
    obtain ⟨hlow, hhigh, -, hlen⟩ := hts
    rw [List.cons_append]
    rcases hmissing : p.missing with _ | m
    · obtain rfl := List.length_eq_zero_iff.1 (hlen.trans hmissing)
      exact readFrom_last offset hlow hhigh hmissing rest
    · have hnext := (Pending.awaits_cons hlow hhigh hmissing).1 h
      have hplace : offset + (t :: ts).length = offset + 1 + ts.length := by
        rw [List.length_cons]
        omega
      rw [readFrom_next offset hlow hhigh hmissing, ih hnext, hplace, Pending.point_next]

/-- A sequence is ended by the bytes that it misses, or broken. -/
theorem awaits_or_error (p : Pending) (offset : Nat) (data : Bytes) :
    (∃ ts rest, p.Awaits ts ∧ data = ts ++ rest) ∨
      ∃ e, readFrom offset (some p) data = .error e ∧ e.offset = p.offset := by
  induction data generalizing p offset with
  | nil => exact .inr ⟨_, rfl, rfl⟩
  | cons t rest ih =>
    by_cases hrange : p.low ≤ t.toNat ∧ t.toNat ≤ p.high
    · obtain ⟨hlow, hhigh⟩ := hrange
      rcases hmissing : p.missing with _ | m
      · exact .inl ⟨[t], rest, ⟨hlow, hhigh, nofun, hmissing.symm⟩, rfl⟩
      · rw [readFrom_next offset hlow hhigh hmissing]
        rcases ih (p.next t m) (offset + 1) with ⟨ts, rest, hts, rfl⟩ | herror
        · exact .inl ⟨t :: ts, rest, (Pending.awaits_cons hlow hhigh hmissing).2 hts, rfl⟩
        · exact .inr herror
    · rw [readFrom, if_neg hrange]
      exact .inr ⟨_, rfl, rfl⟩

/-! ### Between two sequences -/

/-- The sequence that a lead opens. -/
def Lead.opens (lead : Lead) (offset : Nat) (b : UInt8) : Pending :=
  ⟨offset, b, 0, lead.size - 2, lead.bits, lead.low, lead.high⟩

theorem Lead.size_pos (h : Lead.ofByte? b = some lead) : 0 < lead.size := by
  rcases ofByte?_cases h with ⟨v, hv, rfl⟩ | ⟨k, hk, hk', rfl⟩ | ⟨k, hk, rfl⟩ | ⟨k, hk, rfl⟩
  · rw [ofByte?_one hv] at h; cases h; exact Nat.one_pos
  · rw [ofByte?_two hk hk'] at h; cases h; exact Nat.succ_pos 1
  · rw [ofByte?_three hk] at h; cases h; exact Nat.succ_pos 2
  · rw [ofByte?_four hk] at h; cases h; exact Nat.succ_pos 3

theorem Lead.awaits_opens_iff (h : Lead.ofByte? b = some lead) (hsize : lead.size ≠ 1)
    (offset : Nat) :
    (lead.opens offset b).Awaits ts ↔ lead.Fits ts := by
  have hpos := Lead.size_pos h
  cases ts with
  | nil => simp [Pending.Awaits, Fits, hsize]
  | cons t ts =>
    have hlen : ts.length = lead.size - 2 ↔ lead.size = ts.length + 2 := by omega
    simp only [Pending.Awaits, Fits, opens, hlen]

theorem readFrom_single (hlead : Lead.ofByte? b = some lead) (hsize : lead.size = 1) (offset : Nat)
    (rest : Bytes) :
    readFrom offset none (b :: rest) =
      (lead.point [] :: ·) <$> readFrom (offset + 1) none rest := by
  simp only [readFrom, hlead, hsize, ↓reduceIte]
  rfl

theorem readFrom_opens (hlead : Lead.ofByte? b = some lead) (hsize : lead.size ≠ 1) (offset : Nat)
    (rest : Bytes) :
    readFrom offset none (b :: rest) = readFrom (offset + 1) (some (lead.opens offset b)) rest := by
  simp only [readFrom, hlead, hsize, ↓reduceIte]
  rfl

theorem readFrom_encoded (h : Encodes c bs) (offset : Nat) (rest : Bytes) :
    readFrom offset none (bs ++ rest) =
      (c :: ·) <$> readFrom (offset + bs.length) none rest := by
  obtain ⟨b, ts, rfl⟩ := List.exists_cons_of_ne_nil h.ne_nil
  obtain ⟨lead, hlead, hfits, rfl⟩ := encodes_cons_iff.1 h
  rw [List.cons_append]
  by_cases hsize : lead.size = 1
  · obtain rfl := List.length_eq_zero_iff.1 (Nat.succ.inj (hfits.length.trans hsize))
    exact readFrom_single hlead hsize offset rest
  · have hts := (Lead.awaits_opens_iff hlead hsize offset).2 hfits
    have hplace : offset + (b :: ts).length = offset + 1 + ts.length := by
      rw [List.length_cons]
      omega
    rw [readFrom_opens hlead hsize, readFrom_awaits hts, hplace]
    rfl

theorem readFrom_broken (h : Broken (b :: rest)) (offset : Nat) :
    ∃ e, readFrom offset none (b :: rest) = .error e ∧ e.offset = offset := by
  -- the lead opens no sequence that the data end: its bytes would encode a code point
  have hnone : ∀ ts, ts <+: rest → ∀ lead, Lead.ofByte? b = some lead → ¬ lead.Fits ts :=
    fun ts hts lead hlead hfits =>
      h.not_prefix (encodes_cons_iff.2 ⟨lead, hlead, hfits, rfl⟩)
        (List.cons_prefix_cons.2 ⟨rfl, hts⟩)
  rcases hlead : Lead.ofByte? b with _ | lead
  · rw [readFrom, hlead]
    exact ⟨_, rfl, rfl⟩
  by_cases hsize : lead.size = 1
  · exact absurd hsize (hnone [] List.nil_prefix lead hlead)
  rw [readFrom_opens hlead hsize]
  rcases awaits_or_error (lead.opens offset b) (offset + 1) rest with ⟨ts, more, hts, rfl⟩ | herror
  · have hfits := (Lead.awaits_opens_iff hlead hsize offset).1 hts
    exact absurd hfits (hnone ts (List.prefix_append ts more) lead hlead)
  · exact herror

/-! ### Whole data -/

theorem readFrom_of_not_mem (h : .malformed ∉ runes data) (offset : Nat) :
    readFrom offset none data = .ok (decode data) := by
  induction data using runes_induction generalizing offset with
  | nil => rw [decode_nil]; rfl
  | encoded c bs rest henc ih =>
    rw [runes_encoded henc, List.mem_cons, not_or] at h
    rw [readFrom_encoded henc, ih h.2, decode_encoded henc]
    rfl
  | broken b rest hb =>
    rw [runes_broken hb, List.mem_cons, not_or] at h
    exact absurd rfl h.1

theorem readFrom_of_mem (h : .malformed ∈ runes data) (offset : Nat) :
    ∃ e, readFrom offset none data = .error e ∧
      e.offset = offset + span ((runes data).takeWhile (· ≠ .malformed)) := by
  induction data using runes_induction generalizing offset with
  | nil => rw [runes_nil] at h; cases h
  | encoded c bs rest henc ih =>
    have hne := henc.ne_malformed
    rw [runes_encoded henc, List.mem_cons, or_iff_right hne.symm] at h
    obtain ⟨e, he, hoffset⟩ := ih h (offset + bs.length)
    refine ⟨e, by rw [readFrom_encoded henc, he]; rfl, ?_⟩
    rw [runes_encoded henc, List.takeWhile_cons_of_pos
      (p := fun r : Rune => decide (r ≠ .malformed)) (decide_eq_true hne), span_cons,
      hoffset, Nat.add_assoc]
  | broken b rest hb =>
    obtain ⟨e, he, hoffset⟩ := readFrom_broken hb offset
    refine ⟨e, he, ?_⟩
    rw [runes_broken hb, List.takeWhile_cons_of_neg (by simp), span_nil, hoffset]
    rfl

theorem read_of_not_mem (h : .malformed ∉ runes data) : read data = .ok (decode data) :=
  readFrom_of_not_mem h 0

theorem read_of_mem (h : .malformed ∈ runes data) :
    ∃ e, read data = .error e ∧ e.offset = span ((runes data).takeWhile (· ≠ .malformed)) := by
  obtain ⟨e, he, hoffset⟩ := readFrom_of_mem h 0
  exact ⟨e, he, hoffset.trans (Nat.zero_add _)⟩

/-- A message names the place of the broken sequence, and behind it the end of the sequence or the
defect. -/
theorem Malformed.exists_message_eq (e : Malformed) : ∃ front back : Text,
    e.message = front ++ " in position " ++ Text.ofNat e.offset ++ back ∧
      (("-" : Text) <+: back ∨ (": " : Text) <+: back) := by
  unfold message
  split
  · refine ⟨"'utf-8' codec can't decode byte 0x" ++ Text.ofNatPadded 16 2 e.lead.toNat,
      ": " ++ e.defect.message, ?_, .inr (List.prefix_append ..)⟩
    simp only [List.append_assoc]
  · refine ⟨"'utf-8' codec can't decode bytes",
      "-" ++ Text.ofNat (e.offset + e.more) ++ ": " ++ e.defect.message, ?_, .inl ?_⟩
    · have hfront : ("'utf-8' codec can't decode bytes in position " : Text) =
          "'utf-8' codec can't decode bytes" ++ " in position " := rfl
      simp only [hfront, List.append_assoc]
    · rw [List.append_assoc, List.append_assoc]
      exact List.prefix_append ..

end CaretReport.Utf8
