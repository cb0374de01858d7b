import CaretReport.Host.Machine

/-!
# What a machine can write and put together

An integer can be written if it does not have more digits than the interpreter allows
(`Machine.Writes`); the numbers of what memory holds always can (`Machine.writes_of_lt`). A text can
be repeated if the number of repetitions is a machine integer and, where anything has to be put
together at all, the result has a place (`Machine.Repeatable`); two texts can be joined likewise
(`Machine.Joinable`). These are exactly the conditions of success: `repeated_eq_ok_iff` and
`append_eq_ok_iff`. A machine with room for all texts up to a length (`Machine.HasRoom`) repeats and
joins within it.
-/

namespace CaretReport

theorem isMachineInt_iff {n : Int} :
    isMachineInt n = true ↔ -0x8000000000000000 ≤ n ∧ n < 0x8000000000000000 := by
  simp [isMachineInt]

/-- A number of items that is a machine integer. -/
theorem isMachineInt_natCast_iff {n : Nat} :
    isMachineInt (n : Int) = true ↔ n < 0x8000000000000000 := by
  rw [isMachineInt_iff]
  omega

namespace Text

/-- What keeps a text from being put together is no fault that a report has to live with. -/
theorem Fault.isTolerated_exception (f : Fault) : f.exception.isTolerated = false := by
  cases f <;> rfl

theorem Fault.isA_overflow_or_memory (f : Fault) :
    f.exception.isA .overflow = true ∨ f.exception.isA .memory = true := by
  cases f
  case memory => exact .inr rfl
  all_goals exact .inl rfl

theorem times_space (n : Nat) : times n " " = spaces n := List.flatten_replicate_singleton

theorem times_nil (n : Nat) : times n [] = [] := by simp [times]

theorem times_one (t : Text) : times 1 t = t := by simp [times]

theorem length_times (n : Nat) (t : Text) : (times n t).length = n * t.length := by simp [times]

theorem length_ofNat_le_iff {n k : Nat} (hk : 0 < k) : (ofNat n).length ≤ k ↔ n < Nat.pow 10 k := by
  rw [ofNat, ofNatBase, List.length_map]
  exact Nat.length_toDigits_le_iff (by decide) hk

end Text

namespace Machine

variable {m : Machine}

/-! ### Writing integers -/

/-- The number does not have more digits than can be written. -/
def Writes (m : Machine) (n : Nat) : Prop := ∀ limit ∈ m.digits, (Text.ofNat n).length ≤ limit

theorem decimal_of_writes {n : Nat} (h : m.Writes n) : m.decimal n = .ok (Text.ofNat n) := by
  unfold decimal
  cases hdigits : m.digits with
  | none => rfl
  | some limit => exact if_pos (h limit hdigits)

theorem decimal_of_not_writes {n : Nat} (h : ¬ m.Writes n) :
    ∃ limit, m.decimal n = .error (.tooManyDigits limit) := by
  unfold decimal
  cases hdigits : m.digits with
  | none => exact absurd (fun limit hlimit => by rw [hdigits] at hlimit; cases hlimit) h
  | some limit =>
    refine ⟨limit, if_neg fun hle => h fun other hother => ?_⟩
    rw [hdigits] at hother
    cases hother
    exact hle

/-- No interpreter can be told not to write numbers of the size of a memory. -/
theorem writes_of_lt {n : Nat} (h : n < 0x40000000000000000) : m.Writes n := by
  intro limit hlimit
  have hlow := m.digits_ge limit hlimit
  have hshort : (Text.ofNat n).length ≤ 640 :=
    (Text.length_ofNat_le_iff (by decide)).2 (Nat.lt_trans h (by decide +kernel))
  exact Nat.le_trans hshort hlow

theorem not_writes_usual {n : Nat} (h : 4300 < (Text.ofNat n).length) : ¬ usual.Writes n := by
  intro hwrites
  exact absurd (hwrites 4300 rfl) (Nat.not_le.2 h)

/-! ### Putting texts together -/

/-- The text can be repeated `n` times. Nothing has to be put together if the result is empty or the
text itself. -/
structure Repeatable (m : Machine) (n : Int) (t : Text) : Prop where
  count : isMachineInt n
  room : 1 < n → t ≠ [] → isMachineInt (n * t.length) ∧ m.holds n.toNat t

/-- The texts can be put in a row. Nothing has to be put together if one of them is empty. -/
def Joinable (m : Machine) (t u : Text) : Prop :=
  t ≠ [] → u ≠ [] → isMachineInt (t.length + u.length) ∧ m.holds 1 (t ++ u)

variable {n : Int} {t u v : Text}

theorem repeated_of_repeatable (h : m.Repeatable n t) :
    m.repeated n t = .ok (Text.times n.toNat t) := by
  unfold repeated
  rw [h.count]
  simp only [Bool.not_true, Bool.false_eq_true, ↓reduceIte]
  split
  · next hempty =>
    rcases hempty with hn | ht
    · rw [Int.toNat_of_nonpos hn]
      rfl
    · rw [List.isEmpty_iff.1 ht, Text.times_nil]
  next hsome =>
  rw [not_or, Int.not_le] at hsome
  split
  · next hone =>
    subst hone
    exact congrArg _ (Text.times_one t).symm
  next hone =>
  obtain ⟨hlength, hholds⟩ := h.room (by omega) ((not_congr List.isEmpty_iff).1 hsome.2)
  simp only [hlength, hholds, Bool.not_true, Bool.false_eq_true, ↓reduceIte]

theorem repeated_eq_ok_iff :
    m.repeated n t = .ok u ↔ m.Repeatable n t ∧ u = Text.times n.toNat t := by
  refine ⟨fun hok => ?_, fun ⟨h, hu⟩ => by rw [repeated_of_repeatable h, hu]⟩
  have h : m.Repeatable n t := by
    unfold repeated at hok
    split at hok
    · cases hok
    next hcount =>
    refine ⟨by simpa using hcount, fun hn ht => ?_⟩
    have hsome : ¬ (n ≤ 0 ∨ t.isEmpty = true) := by
      rw [not_or, List.isEmpty_iff]
      exact ⟨by omega, ht⟩
    have hone : ¬ n = 1 := by omega
    rw [if_neg hsome, if_neg hone] at hok
    split at hok
    · cases hok
    next hlength =>
    split at hok
    · next hholds => exact ⟨by simpa using hlength, hholds⟩
    · cases hok
  rw [repeated_of_repeatable h] at hok
  cases hok
  exact ⟨h, rfl⟩

/-- A number of repetitions that is no machine integer is refused as such. -/
theorem append_of_joinable (h : m.Joinable t u) : m.append t u = .ok (t ++ u) := by
  unfold append
  split
  · next ht => rw [List.isEmpty_iff.1 ht, List.nil_append]
  next ht =>
  split
  · next hu => rw [List.isEmpty_iff.1 hu, List.append_nil]
  next hu =>
  obtain ⟨hlength, hholds⟩ :=
    h ((not_congr List.isEmpty_iff).1 ht) ((not_congr List.isEmpty_iff).1 hu)
  simp only [hlength, hholds, Bool.not_true, Bool.false_eq_true, ↓reduceIte]

theorem append_eq_ok_iff : m.append t u = .ok v ↔ m.Joinable t u ∧ v = t ++ u := by
  refine ⟨fun hok => ?_, fun ⟨h, hv⟩ => by rw [append_of_joinable h, hv]⟩
  have h : m.Joinable t u := by
    intro ht hu
    unfold append at hok
    rw [if_neg ((not_congr List.isEmpty_iff).2 ht),
      if_neg ((not_congr List.isEmpty_iff).2 hu)] at hok
    split at hok
    · cases hok
    next hlength =>
    split at hok
    · next hholds => exact ⟨by simpa using hlength, hholds⟩
    · cases hok
  rw [append_of_joinable h] at hok
  cases hok
  exact ⟨h, rfl⟩

/-! ### Room up to a length -/

/-- The machine has room for every text of at most `limit` code points. -/
structure HasRoom (m : Machine) (limit : Nat) : Prop where
  lt : limit < 0x8000000000000000
  holds : ∀ (n : Nat) (t : Text), n * t.length ≤ limit → m.holds n t

namespace HasRoom

variable {limit : Nat} (h : m.HasRoom limit)
include h

theorem repeatable {k : Nat} (hpos : 0 ≤ n) (hle : n ≤ k) (hk : k ≤ limit)
    (hlimit : k * t.length ≤ limit) : m.Repeatable n t := by
  have hlt := h.lt
  refine ⟨isMachineInt_iff.2 (by omega), fun _ _ => ?_⟩
  obtain ⟨n, rfl⟩ := Int.eq_ofNat_of_zero_le hpos
  have hprod : n * t.length ≤ limit :=
    Nat.le_trans (Nat.mul_le_mul_right _ (Int.ofNat_le.1 hle)) hlimit
  refine ⟨?_, h.holds n t hprod⟩
  rw [← Int.natCast_mul, isMachineInt_natCast_iff]
  omega

theorem joinable (hlimit : t.length + u.length ≤ limit) : m.Joinable t u := by
  have hlt := h.lt
  refine fun _ _ => ⟨?_, h.holds 1 (t ++ u) ?_⟩
  · rw [← Int.natCast_add, isMachineInt_natCast_iff]
    omega
  · rw [Nat.one_mul, List.length_append]
    exact hlimit

end HasRoom

theorem hasRoom_usual {limit : Nat} (h : limit < 0x800000000000) : usual.HasRoom limit where
  lt := Nat.lt_trans h (by decide)
  holds n t hle := by
    have hlt : n * t.length < 0x800000000000 := Nat.lt_of_le_of_lt hle h
    simpa [usual] using hlt

end Machine

end CaretReport
