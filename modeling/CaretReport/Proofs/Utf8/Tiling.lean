import CaretReport.Proofs.Utf8.Encodes

/-!
# Runes tile the data

Lenient reading goes on behind an encoding if one starts the data, and behind one byte if the data
is `Broken`; `runes_induction` is the induction along this reading. So the runes tile the data, and
each of them is what its place in the data asks for (`runesFrom_exact`). Reading can be cut between
any two runes: `runes_take` and `runes_drop`.
-/

namespace CaretReport.Utf8

/-- No encoding starts the data. -/
def Broken (data : Bytes) : Prop := ∀ c : CodePoint, c.isSurrogate = false → ¬ c.utf8 <+: data

theorem Broken.not_prefix {data bs : Bytes} {c : CodePoint} (h : Broken data)
    (henc : Encodes c bs) :
    ¬ bs <+: data := by
  obtain ⟨hc, rfl⟩ := encodes_iff.1 henc
  exact h c hc

theorem broken_of_not_prefix {data : Bytes} (h : ∀ c bs, Encodes c bs → ¬ bs <+: data) :
    Broken data :=
  fun c hc => h c _ (encodes_utf8 hc)

theorem first?_eq_none_iff {data : Bytes} : first? data = none ↔ Broken data := by
  constructor
  · refine fun hnone => broken_of_not_prefix fun c bs henc hpre => ?_
    rw [first?_eq_some_iff.2 ⟨bs, henc, hpre, rfl⟩] at hnone
    cases hnone
  · intro h
    rcases hfirst : first? data with _ | ⟨c, n⟩
    · rfl
    · obtain ⟨bs, henc, hpre, -⟩ := first?_eq_some_iff.1 hfirst
      exact absurd hpre (h.not_prefix henc)

/-- Fewer bytes start with no more encodings. -/
theorem Broken.take {data : Bytes} (h : Broken data) (n : Nat) : Broken (data.take n) :=
  fun c hc hpre => h c hc (hpre.trans (List.take_prefix n data))

/-! ### One step of reading -/

theorem runes_nil : runes [] = [] := by rw [runes]

theorem runes_encoded {c : CodePoint} {bs : Bytes} (h : Encodes c bs) (rest : Bytes) :
    runes (bs ++ rest) = ⟨some c, bs.length⟩ :: runes rest := by
  have hfirst := first?_eq_some_iff.2 ⟨bs, h, List.prefix_append bs rest, rfl⟩
  obtain ⟨b, ts, rfl⟩ := List.exists_cons_of_ne_nil h.ne_nil
  rw [List.cons_append] at hfirst ⊢
  rw [runes, hfirst]
  simp

theorem runes_broken {b : UInt8} {rest : Bytes} (h : Broken (b :: rest)) :
    runes (b :: rest) = .malformed :: runes rest := by
  rw [runes, first?_eq_none_iff.2 h]

/-- Induction along lenient reading. -/
theorem runes_induction {motive : Bytes → Prop} (nil : motive [])
    (encoded : ∀ c bs rest, Encodes c bs → motive rest → motive (bs ++ rest))
    (broken : ∀ b rest, Broken (b :: rest) → motive rest → motive (b :: rest)) (data : Bytes) :
    motive data := by
  induction data using runes.induct with
  | case1 => exact nil
  | case2 b rest c n hfirst ih =>
    obtain ⟨bs, henc, ⟨tail, heq⟩, rfl⟩ := first?_eq_some_iff.1 hfirst
    rw [← heq]
    refine encoded c bs tail henc ?_
    have htail : (b :: rest).drop bs.length = tail := by rw [← heq, List.drop_left]
    obtain ⟨a, ts, rfl⟩ := List.exists_cons_of_ne_nil henc.ne_nil
    rw [← htail]
    exact ih
  | case3 b rest hfirst ih => exact broken b rest (first?_eq_none_iff.1 hfirst) ih

/-! ### Places between runes -/

/-- The number of bytes that runes take up. -/
def span (rs : List Rune) : Nat := (rs.map Rune.size).sum

@[simp] theorem span_nil : span [] = 0 := rfl

@[simp] theorem span_cons (r : Rune) (rs : List Rune) : span (r :: rs) = r.size + span rs := by
  simp [span]

theorem span_append (rs rs' : List Rune) : span (rs ++ rs') = span rs + span rs' := by
  simp [span]

theorem span_runes (data : Bytes) : span (runes data) = data.length := by
  induction data using runes_induction with
  | nil => rw [runes_nil]; rfl
  | encoded c bs rest henc ih => rw [runes_encoded henc, span_cons, ih, List.length_append]
  | broken b rest hb ih => rw [runes_broken hb, span_cons, ih, List.length_cons, Nat.add_comm]; rfl

theorem runes_drop (data : Bytes) (i : Nat) :
    runes (data.drop (span ((runes data).take i))) = (runes data).drop i := by
  induction data using runes_induction generalizing i with
  | nil => simp [runes_nil]
  | encoded c bs rest henc ih =>
    cases i with
    | zero => simp
    | succ i =>
      have hpast := List.drop_eq_nil_of_le (Nat.le_add_right bs.length (span ((runes rest).take i)))
      simp [runes_encoded henc, List.drop_append, hpast, ih]
  | broken b rest hb ih =>
    cases i with
    | zero => simp
    | succ i => simp [runes_broken hb, Rune.malformed, Nat.add_comm 1, ih]

theorem runes_take (data : Bytes) (i : Nat) :
    runes (data.take (span ((runes data).take i))) = (runes data).take i := by
  induction data using runes_induction generalizing i with
  | nil => simp [runes_nil]
  | encoded c bs rest henc ih =>
    cases i with
    | zero => simp [runes_nil]
    | succ i =>
      simp only [runes_encoded henc, List.take_succ_cons, span_cons, List.take_append,
        Nat.add_sub_cancel_left, List.take_of_length_le (Nat.le_add_right bs.length _), ih]
  | broken b rest hb ih =>
    cases i with
    | zero => simp [runes_nil]
    | succ i =>
      have hcut := hb.take (1 + span ((runes rest).take i))
      rw [Nat.add_comm 1, List.take_succ_cons] at hcut
      rw [runes_broken hb, List.take_succ_cons, span_cons, Nat.add_comm]
      simp only [Rune.malformed, List.take_succ_cons]
      rw [runes_broken hcut, ih]
      rfl

/-! ### Exactness -/

/-- The rune is what the start of the data asks for: the code point whose encoding starts it, or
one malformed byte if there is none. -/
structure Rune.Reads (r : Rune) (data : Bytes) : Prop where
  encoded : ∀ c : CodePoint, c.isSurrogate = false → c.utf8 <+: data → r = ⟨some c, c.utf8.length⟩
  malformed_iff : r = .malformed ↔ Broken data

theorem Encodes.ne_malformed {c : CodePoint} {bs : Bytes} (h : Encodes c bs) :
    (⟨some c, bs.length⟩ : Rune) ≠ .malformed := by
  obtain rfl := h.eq_utf8
  intro heq
  obtain ⟨hc, hlen⟩ := Rune.mk.inj heq
  rw [Option.some.inj hc] at hlen
  exact absurd hlen (by decide)

theorem reads_of_runes_eq {data : Bytes} {r : Rune} {rs : List Rune} (h : runes data = r :: rs) :
    r.Reads data := by
  induction data using runes_induction with
  | nil => rw [runes_nil] at h; cases h
  | encoded c bs rest henc =>
    rw [runes_encoded henc] at h
    cases h
    refine ⟨fun d hd hpre => ?_, fun hm => absurd hm henc.ne_malformed, fun hb => ?_⟩
    · obtain ⟨rfl, rfl⟩ := (encodes_utf8 hd).unique henc hpre (List.prefix_append bs rest)
      rfl
    · exact absurd (List.prefix_append bs rest) (hb.not_prefix henc)
  | broken b rest hb =>
    rw [runes_broken hb] at h
    cases h
    exact ⟨fun d hd hpre => absurd hpre (hb d hd), fun _ => hb, fun _ => rfl⟩

/-- A rune is an encoded code point, or one malformed byte. -/
theorem eq_of_mem_runes {data : Bytes} {r : Rune} (h : r ∈ runes data) :
    (∃ c bs, Encodes c bs ∧ r = ⟨some c, bs.length⟩) ∨ r = .malformed := by
  induction data using runes_induction with
  | nil => rw [runes_nil] at h; cases h
  | encoded c bs rest henc ih =>
    rw [runes_encoded henc] at h
    rcases List.mem_cons.1 h with rfl | h
    · exact .inl ⟨c, bs, henc, rfl⟩
    · exact ih h
  | broken b rest hb ih =>
    rw [runes_broken hb] at h
    rcases List.mem_cons.1 h with rfl | h
    · exact .inr rfl
    · exact ih h

theorem isSome_point_of_mem {data : Bytes} {r : Rune} (h : r ∈ runes data) : r.point.isSome := by
  rcases eq_of_mem_runes h with ⟨c, bs, -, rfl⟩ | rfl <;> rfl

theorem size_pos_of_mem {data : Bytes} {r : Rune} (h : r ∈ runes data) : 0 < r.size := by
  rcases eq_of_mem_runes h with ⟨c, bs, henc, rfl⟩ | rfl
  · exact List.length_pos_iff.2 henc.ne_nil
  · exact Nat.one_pos

/-! ### Bytes that are no text -/

/-- `s` has the bits of a lead and of its continuation bytes, and spells the number `v`. -/
inductive Spells : Nat → Bytes → Prop
  | two {k x : Nat} (hk : k < 32) (hx : x < 64) :
    Spells (k * 64 + x) [(0xC0 + k).toUInt8, (0x80 + x).toUInt8]
  | three {k x y : Nat} (hk : k < 16) (hx : x < 64) (hy : y < 64) :
    Spells ((k * 64 + x) * 64 + y) [(0xE0 + k).toUInt8, (0x80 + x).toUInt8, (0x80 + y).toUInt8]
  | four {k x y z : Nat} (hk : k < 8) (hx : x < 64) (hy : y < 64) (hz : z < 64) :
    Spells (((k * 64 + x) * 64 + y) * 64 + z)
      [(0xF0 + k).toUInt8, (0x80 + x).toUInt8, (0x80 + y).toUInt8, (0x80 + z).toUInt8]

/-- The least number that takes `n` bytes. -/
def leastOfLength : Nat → Nat
  | 0 | 1 => 0
  | 2 => 0x80
  | 3 => 0x800
  | _ => 0x10000

theorem Spells.ne_nil {v : Nat} {s : Bytes} (h : Spells v s) : s ≠ [] := by
  cases h <;> simp

theorem Spells.broken {v : Nat} {s : Bytes} (h : Spells v s)
    (hbad : v < leastOfLength s.length ∨ (0xD800 ≤ v ∧ v ≤ 0xDFFF) ∨ 0x10FFFF < v) (rest : Bytes) :
    Broken (s ++ rest) := by
  refine broken_of_not_prefix fun c bs henc hpre => ?_
  -- both leads have the same bits, so the forms have the same length and the same digits
  cases h <;> cases henc <;>
    simp only [List.cons_append, List.nil_append, List.cons_prefix_cons, ← UInt8.toNat_inj,
      Nat.toUInt8, UInt8.toNat_ofNat', List.length_cons, List.length_nil] at hpre hbad <;>
    simp only [leastOfLength] at hbad <;> omega

/-- A sequence without its end is no encoding, unless `rest` goes on with it. -/
theorem Encodes.broken_of_cut {c : CodePoint} {s t rest : Bytes} (h : Encodes c (s ++ t))
    (hs : s ≠ [])
    (ht : t ≠ []) (hrest : ∀ b ∈ rest.head?, isContinuation b = false) : Broken (s ++ rest) := by
  obtain ⟨b, s, rfl⟩ := List.exists_cons_of_ne_nil hs
  refine broken_of_not_prefix fun d bs henc hpre => ?_
  obtain ⟨a, bs, rfl⟩ := List.exists_cons_of_ne_nil henc.ne_nil
  rw [List.cons_append] at h hpre
  obtain ⟨rfl, hbs⟩ := List.cons_prefix_cons.1 hpre
  have hlen : bs.length = s.length + t.length := by
    rw [henc.length_eq h, List.length_append]
  have htpos := List.length_pos_iff.2 ht
  -- `bs` is longer than `s`, so its next byte is the first one of `rest`
  obtain ⟨us, rfl⟩ := List.prefix_of_prefix_length_le (List.prefix_append s rest) hbs (by omega)
  rw [List.length_append] at hlen
  obtain ⟨u, us, rfl⟩ := List.exists_cons_of_length_pos (l := us) (by omega)
  obtain ⟨rest, rfl⟩ := (List.prefix_append_right_inj s).1 hbs
  have hcont := henc.isContinuation_of_mem (t := u) (by simp)
  rw [hrest u rfl] at hcont
  cases hcont

theorem broken_continuation {t : UInt8} (h : isContinuation t = true) (rest : Bytes) :
    Broken (t :: rest) := by
  refine broken_of_not_prefix fun c bs henc hpre => ?_
  obtain ⟨a, bs, rfl⟩ := List.exists_cons_of_ne_nil henc.ne_nil
  obtain ⟨rfl, -⟩ := List.cons_prefix_cons.1 hpre
  rw [henc.not_isContinuation] at h
  cases h

theorem runes_continuations {ts : Bytes} (h : ∀ t ∈ ts, isContinuation t = true) (rest : Bytes) :
    runes (ts ++ rest) = List.replicate ts.length .malformed ++ runes rest := by
  induction ts with
  | nil => rfl
  | cons t ts ih =>
    rw [List.cons_append, runes_broken (broken_continuation (h t (by simp)) _),
      ih fun u hu => h u (by simp [hu])]
    rfl

/-- `s` looks like text but is none in front of `rest`: it is too long a form, a surrogate or a
number behind the last code point, or a continuation byte without a lead, or a sequence that is cut
off. -/
inductive Garbled (rest : Bytes) : Bytes → Prop
  | misspelled {v : Nat} {s : Bytes} (h : Spells v s)
    (hbad : v < leastOfLength s.length ∨ (0xD800 ≤ v ∧ v ≤ 0xDFFF) ∨ 0x10FFFF < v) : Garbled rest s
  | stray {t : UInt8} (h : isContinuation t = true) : Garbled rest [t]
  | cutOff {c : CodePoint} {s t : Bytes} (h : Encodes c (s ++ t)) (hs : s ≠ []) (ht : t ≠ [])
    (hrest : ∀ b ∈ rest.head?, isContinuation b = false) : Garbled rest s

theorem Spells.isContinuation_of_mem {v : Nat} {b t : UInt8} {ts : Bytes} (h : Spells v (b :: ts))
    (ht : t ∈ ts) : isContinuation t = true := by
  cases h <;> simp only [List.mem_cons, List.not_mem_nil, or_false] at ht
  · subst ht; exact isContinuation_iff.2 ⟨_, ‹_›, rfl⟩
  · rcases ht with rfl | rfl <;> exact isContinuation_iff.2 ⟨_, ‹_›, rfl⟩
  · rcases ht with rfl | rfl | rfl <;> exact isContinuation_iff.2 ⟨_, ‹_›, rfl⟩

theorem Garbled.broken {rest s : Bytes} (h : Garbled rest s) : Broken (s ++ rest) := by
  cases h with
  | misspelled h hbad => exact h.broken hbad rest
  | stray h => exact broken_continuation h rest
  | cutOff h hs ht hrest => exact h.broken_of_cut hs ht hrest

theorem Garbled.exists_cons {rest s : Bytes} (h : Garbled rest s) :
    ∃ b ts, s = b :: ts ∧ ∀ t ∈ ts, isContinuation t = true := by
  cases h with
  | misspelled h =>
    obtain ⟨b, ts, rfl⟩ := List.exists_cons_of_ne_nil h.ne_nil
    exact ⟨b, ts, rfl, fun t ht => h.isContinuation_of_mem ht⟩
  | @stray t h => exact ⟨t, [], rfl, by simp⟩
  | cutOff h hs =>
    obtain ⟨b, ts, rfl⟩ := List.exists_cons_of_ne_nil hs
    exact ⟨b, ts, rfl, fun t ht => h.isContinuation_of_mem (List.mem_append_left _ ht)⟩

/-- Each byte of a garbled sequence is one malformed byte. -/
theorem Garbled.runes_eq {rest s : Bytes} (h : Garbled rest s) :
    runes (s ++ rest) = List.replicate s.length .malformed ++ runes rest := by
  have hb := h.broken
  obtain ⟨b, ts, rfl, hts⟩ := h.exists_cons
  rw [List.cons_append] at hb ⊢
  rw [runes_broken hb, runes_continuations hts]
  rfl

/-- Reading from any offset tiles the data behind it with runes, and each rune is what its place
asks for. -/
theorem runesFrom_exact (data : Bytes) (start : Nat) :
    ∃ rs, runesFrom data start = .ok rs ∧ span rs = data.length - start ∧
      (∀ i r, rs[i]? = some r →
        0 < r.size ∧ start + span (rs.take i) + r.size ≤ data.length ∧ r.point.isSome ∧
          r.Reads (data.drop (start + span (rs.take i)))) ∧
      ∀ i s rest, Garbled rest s → data.drop (start + span (rs.take i)) = s ++ rest →
        List.replicate s.length .malformed <+: rs.drop i := by
  refine ⟨runes (data.drop start), rfl, by rw [span_runes, List.length_drop], fun i r hr => ?_,
    fun i s rest hs heq => ?_⟩
  · have hsplit : (runes (data.drop start)).drop i =
        r :: (runes (data.drop start)).drop (i + 1) := by
      rw [List.drop_eq_getElem?_toList_append, hr]
      rfl
    have hmem := List.mem_of_getElem? hr
    have hpos := size_pos_of_mem hmem
    have hspan := span_runes (data.drop start)
    rw [← List.take_append_drop i (runes (data.drop start)), hsplit, span_append, span_cons,
      List.length_drop] at hspan
    rw [← runes_drop, List.drop_drop] at hsplit
    exact ⟨hpos, by omega, isSome_point_of_mem hmem, reads_of_runes_eq hsplit⟩
  · rw [← runes_drop, List.drop_drop, heq, hs.runes_eq]
    exact List.prefix_append _ _

end CaretReport.Utf8
