import CaretReport.Proofs.Utf8.RoundTrip

/-!
# Cuts that reading does not notice

Data can be cut anywhere but inside an encoding: both parts are read as they are read together
(`runes_append_of_not_straddled`). No encoding goes on with a byte that is no continuation byte, so
a cut in front of such a byte is never noticed (`runes_append`). Bytes of ASCII are never part of a
longer sequence, so they are found in the data where they are found in the text.
-/

namespace CaretReport.Utf8

variable {c : CodePoint} {bs s t rest data data' : Bytes} {b : UInt8}

/-- The data do not go on with a sequence that started before them. -/
def Fresh (data : Bytes) : Prop := ∀ b ∈ data.head?, isContinuation b = false

/-- An encoding starts in `data` and goes on in `rest`. -/
inductive Straddled (data rest : Bytes) : Prop
  | intro {c : CodePoint} {s t : Bytes} (henc : Encodes c (s ++ t)) (hs : s ≠ []) (ht : t ≠ [])
    (hdata : s <:+ data) (hrest : t <+: rest)

theorem Straddled.mono (h : Straddled data rest) (hdata : data <:+ data') :
    Straddled data' rest := by
  obtain ⟨henc, hs, ht, hsuffix, hrest⟩ := h
  exact ⟨henc, hs, ht, hsuffix.trans hdata, hrest⟩

/-- All bytes of an encoding behind its first are continuation bytes. -/
theorem Encodes.isContinuation_of_mem_right (h : Encodes c (s ++ t)) (hs : s ≠ []) (hb : b ∈ t) :
    isContinuation b = true := by
  obtain ⟨a, s, rfl⟩ := List.exists_cons_of_ne_nil hs
  exact h.isContinuation_of_mem (List.mem_append_right s hb)

theorem not_straddled_of_fresh (h : Fresh rest) : ¬ Straddled data rest := by
  rintro @⟨c, s, t, henc, hs, ht, -, more, rfl⟩
  obtain ⟨b, t, rfl⟩ := List.exists_cons_of_ne_nil ht
  have hcont := henc.isContinuation_of_mem_right hs List.mem_cons_self
  rw [h b rfl] at hcont
  cases hcont

theorem Broken.append (h : Broken s) (hs : s ≠ []) (hrest : ¬ Straddled s rest) :
    Broken (s ++ rest) := by
  refine broken_of_not_prefix fun c bs henc hpre => ?_
  -- the encoding does not end inside `s`, so it would have to go on in `rest`
  rcases List.prefix_or_prefix_of_prefix hpre (List.prefix_append s rest) with hin | ⟨t, rfl⟩
  · exact h.not_prefix henc hin
  · have ht : t ≠ [] := by
      rintro rfl
      rw [List.append_nil] at henc
      exact h.not_prefix henc List.prefix_rfl
    exact hrest ⟨henc, hs, ht, List.suffix_rfl, (List.prefix_append_right_inj s).1 hpre⟩

theorem runes_append_of_not_straddled (h : ¬ Straddled data rest) :
    runes (data ++ rest) = runes data ++ runes rest := by
  induction data using runes_induction with
  | nil => rw [runes_nil]; rfl
  | encoded c bs more henc ih =>
    have hmore : ¬ Straddled more rest := fun hin => h (hin.mono (List.suffix_append bs more))
    rw [List.append_assoc, runes_encoded henc, runes_encoded henc, ih hmore, List.cons_append]
  | broken b more hb ih =>
    have hmore : ¬ Straddled more rest := fun hin => h (hin.mono (List.suffix_cons b more))
    have hb' := hb.append (List.cons_ne_nil b more) h
    rw [List.cons_append] at hb' ⊢
    rw [runes_broken hb', runes_broken hb, ih hmore, List.cons_append]

theorem runes_append (data : Bytes) (h : Fresh rest) :
    runes (data ++ rest) = runes data ++ runes rest :=
  runes_append_of_not_straddled (not_straddled_of_fresh h)

theorem decode_append_of_not_straddled (h : ¬ Straddled data rest) :
    decode (data ++ rest) = decode data ++ decode rest := by
  rw [decode, runes_append_of_not_straddled h, List.flatMap_append]
  rfl

theorem decode_append (data : Bytes) (h : Fresh rest) :
    decode (data ++ rest) = decode data ++ decode rest :=
  decode_append_of_not_straddled (not_straddled_of_fresh h)

theorem decode_ne_nil (h : data ≠ []) : decode data ≠ [] := by
  induction data using runes_induction with
  | nil => exact absurd rfl h
  | encoded c bs rest henc => rw [decode_encoded henc]; exact List.cons_ne_nil _ _
  | broken b rest hb => rw [decode_broken hb]; exact List.cons_ne_nil _ _

theorem decode_eq_nil_iff : decode data = [] ↔ data = [] :=
  ⟨fun h => by_contra fun hne => decode_ne_nil hne h, fun h => h ▸ decode_nil⟩

/-! ### ASCII -/

/-- The byte is the encoding of a code point. -/
def IsAscii (b : UInt8) : Prop := b.toNat < 0x80

instance (b : UInt8) : Decidable (IsAscii b) := inferInstanceAs (Decidable (b.toNat < 0x80))

/-- The code point of a byte of ASCII. -/
def ascii (b : UInt8) : CodePoint := .ofNat b.toNat

namespace IsAscii

variable (hb : IsAscii b)
include hb

theorem encodes : Encodes (ascii b) [b] := by
  have hbyte : b.toNat.toUInt8 = b := UInt8.ofNat_toNat
  have h := Encodes.one hb
  rwa [hbyte] at h

theorem not_isContinuation : isContinuation b = false := hb.encodes.not_isContinuation

theorem fresh (rest : Bytes) : Fresh (b :: rest) := by
  intro x hx
  cases hx
  exact hb.not_isContinuation

theorem ne_replacement : ascii b ≠ .replacement := by
  intro h
  have hval := congrArg CodePoint.val h
  have hlt : b.toNat < 0x80 := hb
  rw [ascii, CodePoint.val_ofNat (by omega)] at hval
  have hbig : CodePoint.replacement.val = 0xFFFD := rfl
  omega

/-- It is no part of a longer encoding. -/
theorem eq_of_mem (h : Encodes c bs) (hmem : b ∈ bs) : bs = [b] ∧ c = ascii b := by
  obtain ⟨a, ts, rfl⟩ := List.exists_cons_of_ne_nil h.ne_nil
  rcases List.mem_cons.1 hmem with rfl | hmem
  · obtain ⟨rfl, hbs⟩ :=
      h.unique hb.encodes List.prefix_rfl (List.cons_prefix_cons.2 ⟨rfl, List.nil_prefix⟩)
    exact ⟨hbs, rfl⟩
  · have hcont := h.isContinuation_of_mem hmem
    rw [hb.not_isContinuation] at hcont
    cases hcont

theorem eq_of_eq_ascii (h : Encodes (ascii b) bs) : bs = [b] :=
  h.eq_utf8.trans hb.encodes.eq_utf8.symm

theorem mem_iff (h : Encodes c bs) : b ∈ bs ↔ ascii b = c := by
  refine ⟨fun hmem => (hb.eq_of_mem h hmem).2.symm, ?_⟩
  rintro rfl
  rw [hb.eq_of_eq_ascii h]
  exact List.mem_cons_self

theorem not_broken (rest : Bytes) : ¬ Broken (b :: rest) := fun h =>
  h.not_prefix hb.encodes (List.cons_prefix_cons.2 ⟨rfl, List.nil_prefix⟩)

theorem ne_of_broken {a : UInt8} (h : Broken (a :: rest)) : a ≠ b := by
  rintro rfl
  exact hb.not_broken rest h

theorem decode_cons (rest : Bytes) : decode (b :: rest) = ascii b :: decode rest :=
  decode_encoded hb.encodes rest

theorem decode_append_cons (data rest : Bytes) :
    decode (data ++ b :: rest) = decode data ++ ascii b :: decode rest := by
  rw [decode_append data (hb.fresh rest), hb.decode_cons]

theorem wellFormed_append_cons_iff :
    WellFormed (data ++ b :: rest) ↔ WellFormed data ∧ WellFormed rest := by
  have hcons : runes (b :: rest) = ⟨some (ascii b), 1⟩ :: runes rest :=
    runes_encoded hb.encodes rest
  have hne : (⟨some (ascii b), 1⟩ : Rune) ≠ .malformed := hb.encodes.ne_malformed
  simp only [wellFormed_iff_count, runes_append data (hb.fresh rest), hcons, List.count_append,
    List.count_cons_of_ne hne, Nat.add_eq_zero_iff]

theorem mem_decode_iff : ascii b ∈ decode data ↔ b ∈ data := by
  induction data using runes_induction with
  | nil => rw [decode_nil]; exact ⟨nofun, nofun⟩
  | encoded c bs rest henc ih =>
    rw [decode_encoded henc, List.mem_cons, List.mem_append, ih, hb.mem_iff henc]
  | broken a rest hbroken ih =>
    rw [decode_broken hbroken, List.mem_cons, List.mem_cons, ih, eq_comm (a := b)]
    simp only [hb.ne_replacement, hb.ne_of_broken hbroken]

/-- The text ends in it exactly if the data do. -/
theorem getLast?_decode_iff : (decode data).getLast? = some (ascii b) ↔ data.getLast? = some b := by
  induction data using runes_induction with
  | nil => rw [decode_nil]; exact ⟨nofun, nofun⟩
  | encoded c bs rest henc ih =>
    rw [decode_encoded henc]
    rcases eq_or_ne rest [] with rfl | hrest
    · rw [decode_nil, List.append_nil, List.getLast?_singleton, Option.some_inj]
      refine ⟨fun h => ?_, fun h => ((hb.mem_iff henc).1 (List.mem_of_getLast? h)).symm⟩
      rw [h] at henc
      rw [hb.eq_of_eq_ascii henc, List.getLast?_singleton]
    · rw [List.getLast?_append_of_ne_nil bs hrest, ← List.singleton_append,
        List.getLast?_append_of_ne_nil _ (decode_ne_nil hrest), ih]
  | broken a rest hbroken ih =>
    rw [decode_broken hbroken]
    rcases eq_or_ne rest [] with rfl | hrest
    · rw [decode_nil, List.getLast?_singleton, List.getLast?_singleton, Option.some_inj,
        Option.some_inj]
      simp only [hb.ne_replacement.symm, hb.ne_of_broken hbroken]
    · rw [← List.singleton_append, ← List.singleton_append (x := a),
        List.getLast?_append_of_ne_nil _ hrest,
        List.getLast?_append_of_ne_nil _ (decode_ne_nil hrest), ih]

end IsAscii

end CaretReport.Utf8
