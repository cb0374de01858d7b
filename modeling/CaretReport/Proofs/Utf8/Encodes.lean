import CaretReport.Utf8.Runes
import Mathlib.Data.List.Basic
import Mathlib.Data.List.TakeWhile
import Mathlib.Tactic.IntervalCases

/-!
# Encodings of code points

`Encodes` lists the encodings by the bits that each byte carries. They are the encodings that
`CodePoint.utf8` gives to the code points that are no surrogates (`encodes_iff`), and `first?` finds
the one that starts the data, if there is one (`first?_eq_some_iff`).
-/

namespace CaretReport

namespace Utf8

/-! ### Continuation bytes -/

theorem toNat_continuation {x : Nat} (hx : x < 64) : (0x80 + x).toUInt8.toNat = 0x80 + x := by
  simp; omega

theorem exists_continuation {t : UInt8} (hlow : 0x80 ≤ t.toNat) (hhigh : t.toNat ≤ 0xBF) :
    ∃ x, x < 64 ∧ t = (0x80 + x).toUInt8 := by
  refine ⟨t.toNat - 0x80, by omega, ?_⟩
  rw [Nat.add_sub_cancel' hlow]
  exact UInt8.ofNat_toNat.symm

theorem isContinuation_iff {t : UInt8} :
    isContinuation t = true ↔ ∃ x, x < 64 ∧ t = (0x80 + x).toUInt8 := by
  simp only [isContinuation, Bool.and_eq_true, decide_eq_true_eq]
  constructor
  · rintro ⟨hlow, hhigh⟩
    exact exists_continuation hlow hhigh
  · rintro ⟨x, hx, rfl⟩
    rw [toNat_continuation hx]
    omega

/-! ### Lead bytes -/

namespace Lead

theorem ofByte?_one {v : Nat} (h : v < 0x80) : ofByte? v.toUInt8 = some ⟨1, v, 0x80, 0xBF⟩ := by
  have hv : v.toUInt8.toNat = v := by simp; omega
  simp [ofByte?, hv, h]

theorem ofByte?_two {k : Nat} (h : 2 ≤ k) (h' : k < 32) :
    ofByte? (0xC0 + k).toUInt8 = some ⟨2, k, 0x80, 0xBF⟩ := by
  interval_cases k <;> rfl

theorem ofByte?_three {k : Nat} (h : k < 16) : ofByte? (0xE0 + k).toUInt8 =
    some ⟨3, k, if k = 0 then 0xA0 else 0x80, if k = 13 then 0x9F else 0xBF⟩ := by
  interval_cases k <;> rfl

theorem ofByte?_four {k : Nat} (h : k < 5) : ofByte? (0xF0 + k).toUInt8 =
    some ⟨4, k, if k = 0 then 0x90 else 0x80, if k = 4 then 0x8F else 0xBF⟩ := by
  interval_cases k <;> rfl

theorem ofByte?_continuation {t : UInt8} (h : isContinuation t = true) : ofByte? t = none := by
  simp only [isContinuation, Bool.and_eq_true, decide_eq_true_eq] at h
  have hlow : ¬ t.toNat < 0x80 := by omega
  have hhigh : t.toNat < 0xC2 := by omega
  simp [ofByte?, hlow, hhigh]

/-- The bytes that can lead. -/
theorem ofByte?_cases {b : UInt8} {lead : Lead} (h : ofByte? b = some lead) :
    (∃ v, v < 0x80 ∧ b = v.toUInt8) ∨ (∃ k, 2 ≤ k ∧ k < 32 ∧ b = (0xC0 + k).toUInt8) ∨
      (∃ k, k < 16 ∧ b = (0xE0 + k).toUInt8) ∨ ∃ k, k < 5 ∧ b = (0xF0 + k).toUInt8 := by
  have hb : ∀ n k, n + k = b.toNat → b = (n + k).toUInt8 := fun n k hk => by
    rw [hk]; exact UInt8.ofNat_toNat.symm
  rcases Nat.lt_or_ge b.toNat 0x80 with h1 | h1
  · exact .inl ⟨b.toNat, h1, UInt8.ofNat_toNat.symm⟩
  rcases Nat.lt_or_ge b.toNat 0xC2 with h2 | h2
  · simp [ofByte?, Nat.not_lt.2 h1, h2] at h
  rcases Nat.lt_or_ge b.toNat 0xE0 with h3 | h3
  · exact .inr (.inl ⟨b.toNat - 0xC0, by omega, by omega, hb _ _ (by omega)⟩)
  rcases Nat.lt_or_ge b.toNat 0xF0 with h4 | h4
  · exact .inr (.inr (.inl ⟨b.toNat - 0xE0, by omega, hb _ _ (by omega)⟩))
  rcases Nat.lt_or_ge b.toNat 0xF5 with h5 | h5
  · exact .inr (.inr (.inr ⟨b.toNat - 0xF0, by omega, hb _ _ (by omega)⟩))
  · have hbig : ∀ n, n ≤ 0xF4 → ¬ b.toNat = n ∧ ¬ b.toNat < n := by omega
    simp [ofByte?, hbig] at h

/-- `ts` is a full tail of the lead. -/
def Fits (lead : Lead) : Bytes → Prop
  | [] => lead.size = 1
  | t :: ts => lead.low ≤ t.toNat ∧ t.toNat ≤ lead.high ∧ (∀ u ∈ ts, isContinuation u = true) ∧
      lead.size = ts.length + 2

variable {lead : Lead} {ts rest : Bytes}

theorem Fits.length (h : lead.Fits ts) : ts.length + 1 = lead.size := by
  cases ts with
  | nil => exact h.symm
  | cons t ts => exact h.2.2.2.symm

theorem Fits.tail_append (h : lead.Fits ts) (rest : Bytes) : lead.tail (ts ++ rest) = ts := by
  cases ts with
  | nil =>
    have hsize : lead.size = 1 := h
    cases rest <;> simp [tail, hsize]
  | cons t ts =>
    obtain ⟨hlow, hhigh, hts, hsize⟩ := h
    have htake : (ts ++ rest).take (lead.size - 2) = ts := by
      rw [hsize, Nat.add_sub_cancel, List.take_left]
    have hwhile : ts.takeWhile isContinuation = ts := List.takeWhile_eq_self_iff.2 hts
    have hmany : 1 < lead.size := by omega
    simp [tail, hlow, hhigh, htake, hwhile, hmany]

theorem fits_tail (h : (lead.tail rest).length + 1 = lead.size) :
    lead.Fits (lead.tail rest) ∧ lead.tail rest <+: rest := by
  cases rest with
  | nil => exact ⟨h.symm, List.nil_prefix⟩
  | cons t rest =>
    simp only [tail] at h ⊢
    split at h
    · next ht =>
      rw [if_pos ht]
      simp only [Bool.and_eq_true, decide_eq_true_eq] at ht
      refine ⟨⟨ht.1.2, ht.2, fun u hu => List.mem_takeWhile_imp hu, h.symm⟩, ?_⟩
      exact List.cons_prefix_cons.2
        ⟨rfl, (List.takeWhile_prefix _).trans (List.take_prefix _ _)⟩
    · next ht =>
      rw [if_neg ht]
      exact ⟨h.symm, List.nil_prefix⟩

end Lead

theorem first?_cons_eq_some {b : UInt8} {rest : Bytes} {c : CodePoint} {n : Nat} :
    first? (b :: rest) = some (c, n) ↔
      ∃ lead ts, Lead.ofByte? b = some lead ∧ lead.Fits ts ∧ ts <+: rest ∧ c = lead.point ts ∧
        n = lead.size := by
  constructor
  · intro h
    simp only [first?, Option.bind_eq_bind, Option.bind_eq_some_iff] at h
    obtain ⟨lead, hlead, h⟩ := h
    split at h
    · next hlen =>
      obtain ⟨hfits, hpre⟩ := Lead.fits_tail hlen
      cases h
      exact ⟨lead, _, hlead, hfits, hpre, rfl, rfl⟩
    · cases h
  · rintro ⟨lead, ts, hlead, hfits, ⟨rest, rfl⟩, rfl, rfl⟩
    simp [first?, hlead, hfits.tail_append, hfits.length]

/-! ### Encodings -/

/-- `bs` encodes the code point, in the shortest form. The bounds on the first digit behind the
lead leave out the forms that are too long, the surrogates, and what lies behind U+10FFFF. -/
inductive Encodes : CodePoint → Bytes → Prop
  | one {v : Nat} (hv : v < 0x80) : Encodes (.ofNat v) [v.toUInt8]
  | two {k x : Nat} (hk : 2 ≤ k) (hk' : k < 32) (hx : x < 64) :
    Encodes (.ofNat (k * 64 + x)) [(0xC0 + k).toUInt8, (0x80 + x).toUInt8]
  | three {k x y : Nat} (hk : k < 16) (hx : x < 64) (hy : y < 64) (hlow : k = 0 → 32 ≤ x)
    (hhigh : k = 13 → x < 32) :
    Encodes (.ofNat ((k * 64 + x) * 64 + y))
      [(0xE0 + k).toUInt8, (0x80 + x).toUInt8, (0x80 + y).toUInt8]
  | four {k x y z : Nat} (hk : k < 5) (hx : x < 64) (hy : y < 64) (hz : z < 64)
    (hlow : k = 0 → 16 ≤ x) (hhigh : k = 4 → x < 16) :
    Encodes (.ofNat (((k * 64 + x) * 64 + y) * 64 + z))
      [(0xF0 + k).toUInt8, (0x80 + x).toUInt8, (0x80 + y).toUInt8, (0x80 + z).toUInt8]

namespace Encodes

variable {c : CodePoint} {bs : Bytes}

theorem eq_utf8 (h : Encodes c bs) : bs = c.utf8 := by
  cases h with
  | one hv =>
    rw [CodePoint.utf8, CodePoint.val_ofNat (by omega), if_pos hv]
  | @two k x hk hk' hx =>
    have h1 : (k * 64 + x) / 64 = k := by omega
    have h2 : (k * 64 + x) % 64 = x := by omega
    rw [CodePoint.utf8, CodePoint.val_ofNat (by omega), if_neg (by omega),
      if_pos (by omega), h1, h2]
  | @three k x y hk hx hy hlow hhigh =>
    have h1 : ((k * 64 + x) * 64 + y) / 4096 = k := by omega
    have h2 : ((k * 64 + x) * 64 + y) / 64 % 64 = x := by omega
    have h3 : ((k * 64 + x) * 64 + y) % 64 = y := by omega
    rw [CodePoint.utf8, CodePoint.val_ofNat (by omega), if_neg (by omega), if_neg (by omega),
      if_pos (by omega), h1, h2, h3]
  | @four k x y z hk hx hy hz hlow hhigh =>
    have h1 : (((k * 64 + x) * 64 + y) * 64 + z) / 262144 = k := by omega
    have h2 : (((k * 64 + x) * 64 + y) * 64 + z) / 4096 % 64 = x := by omega
    have h3 : (((k * 64 + x) * 64 + y) * 64 + z) / 64 % 64 = y := by omega
    have h4 : (((k * 64 + x) * 64 + y) * 64 + z) % 64 = z := by omega
    rw [CodePoint.utf8, CodePoint.val_ofNat (by omega), if_neg (by omega), if_neg (by omega),
      if_neg (by omega), h1, h2, h3, h4]

theorem not_surrogate (h : Encodes c bs) : c.isSurrogate = false := by
  have key : ∀ v, v < 0x110000 → (v < 0xD800 ∨ 0xDFFF < v) →
      (CodePoint.ofNat v).isSurrogate = false := by
    intro v hv hout
    rw [CodePoint.isSurrogate, CodePoint.val_ofNat hv]
    simp only [Bool.and_eq_false_iff, decide_eq_false_iff_not]
    omega
  cases h <;> exact key _ (by omega) (by omega)

theorem ne_nil (h : Encodes c bs) : bs ≠ [] := by
  cases h <;> simp

end Encodes

theorem encodes_utf8 {c : CodePoint} (h : c.isSurrogate = false) : Encodes c c.utf8 := by
  obtain ⟨v, hv⟩ := c
  have hout : v < 0xD800 ∨ 0xDFFF < v := by
    simp only [CodePoint.isSurrogate, Bool.and_eq_false_iff, decide_eq_false_iff_not] at h
    omega
  have key :
      ∀ {n bs}, n = v → Encodes (.ofNat n) bs → Encodes ⟨v, hv⟩ (CodePoint.utf8 ⟨v, hv⟩) := by
    rintro n bs rfl h
    have hc : CodePoint.ofNat n = ⟨n, hv⟩ := CodePoint.ofNat_val ⟨n, hv⟩
    obtain rfl := h.eq_utf8
    rwa [hc] at h
  rcases Nat.lt_or_ge v 0x80 with h1 | h1
  · exact key rfl (.one h1)
  rcases Nat.lt_or_ge v 0x800 with h2 | h2
  · exact key (by omega) (.two (k := v / 64) (x := v % 64) (by omega) (by omega) (by omega))
  rcases Nat.lt_or_ge v 0x10000 with h3 | h3
  · exact key (by omega) (.three (k := v / 4096) (x := v / 64 % 64) (y := v % 64) (by omega)
      (by omega) (by omega) (by omega) (by omega))
  · exact key (by omega) (.four (k := v / 262144) (x := v / 4096 % 64) (y := v / 64 % 64)
      (z := v % 64) (by omega) (by omega) (by omega) (by omega) (by omega) (by omega))

theorem encodes_iff {c : CodePoint} {bs : Bytes} :
    Encodes c bs ↔ c.isSurrogate = false ∧ bs = c.utf8 :=
  ⟨fun h => ⟨h.not_surrogate, h.eq_utf8⟩, fun ⟨h, hbs⟩ => hbs ▸ encodes_utf8 h⟩

/-- The ranges of the leads leave exactly the encodings. -/
theorem encodes_cons_iff {b : UInt8} {ts : Bytes} {c : CodePoint} :
    Encodes c (b :: ts) ↔ ∃ lead, Lead.ofByte? b = some lead ∧
      lead.Fits ts ∧ c = lead.point ts := by
  constructor
  · intro h
    cases h with
    | one hv => exact ⟨_, Lead.ofByte?_one hv, rfl, rfl⟩
    | two hk hk' hx =>
      refine ⟨_, Lead.ofByte?_two hk hk', ⟨?_, ?_, by simp, rfl⟩, ?_⟩
      · rw [toNat_continuation hx]; dsimp only; omega
      · rw [toNat_continuation hx]; dsimp only; omega
      · simp only [Lead.point, List.foldl_cons, List.foldl_nil, toNat_continuation hx,
          Nat.add_sub_cancel_left]
    | three hk hx hy hlow hhigh =>
      refine ⟨_, Lead.ofByte?_three hk, ⟨?_, ?_, ?_, rfl⟩, ?_⟩
      · rw [toNat_continuation hx]; dsimp only; split <;> omega
      · rw [toNat_continuation hx]; dsimp only; split <;> omega
      · rintro u (_ | ⟨_, ⟨⟩⟩)
        exact isContinuation_iff.2 ⟨_, hy, rfl⟩
      · simp only [Lead.point, List.foldl_cons, List.foldl_nil, toNat_continuation hx,
          toNat_continuation hy, Nat.add_sub_cancel_left]
    | four hk hx hy hz hlow hhigh =>
      refine ⟨_, Lead.ofByte?_four hk, ⟨?_, ?_, ?_, rfl⟩, ?_⟩
      · rw [toNat_continuation hx]; dsimp only; split <;> omega
      · rw [toNat_continuation hx]; dsimp only; split <;> omega
      · rintro u (_ | ⟨_, _ | ⟨_, ⟨⟩⟩⟩)
        · exact isContinuation_iff.2 ⟨_, hy, rfl⟩
        · exact isContinuation_iff.2 ⟨_, hz, rfl⟩
      · simp only [Lead.point, List.foldl_cons, List.foldl_nil, toNat_continuation hx,
          toNat_continuation hy, toNat_continuation hz, Nat.add_sub_cancel_left]
  · rintro ⟨lead, hlead, hfits, rfl⟩
    rcases Lead.ofByte?_cases hlead with ⟨v, hv, rfl⟩ | ⟨k, hk, hk', rfl⟩ |
      ⟨k, hk, rfl⟩ | ⟨k, hk, rfl⟩
    · rw [Lead.ofByte?_one hv] at hlead
      cases hlead
      obtain rfl := List.length_eq_zero_iff.1 (Nat.succ.inj hfits.length)
      exact .one hv
    · rw [Lead.ofByte?_two hk hk'] at hlead
      cases hlead
      obtain ⟨t, rfl⟩ := List.length_eq_one_iff.1 (Nat.succ.inj hfits.length)
      obtain ⟨hlow, hhigh, -, -⟩ := hfits
      obtain ⟨x, hx, rfl⟩ := exists_continuation hlow hhigh
      simp only [Lead.point, List.foldl_cons, List.foldl_nil, toNat_continuation hx,
        Nat.add_sub_cancel_left]
      exact .two hk hk' hx
    · rw [Lead.ofByte?_three hk] at hlead
      cases hlead
      obtain ⟨t, u, rfl⟩ := List.length_eq_two.1 (Nat.succ.inj hfits.length)
      obtain ⟨hlow, hhigh, hu, -⟩ := hfits
      dsimp only at hlow hhigh
      obtain ⟨y, hy, rfl⟩ := isContinuation_iff.1 (hu u (by simp))
      obtain ⟨x, hx, rfl⟩ := exists_continuation (t := t) (by split at hlow <;> omega)
        (by split at hhigh <;> omega)
      rw [toNat_continuation hx] at hlow hhigh
      simp only [Lead.point, List.foldl_cons, List.foldl_nil, toNat_continuation hx,
        toNat_continuation hy, Nat.add_sub_cancel_left]
      refine .three hk hx hy (fun h => ?_) (fun h => ?_)
      · rw [if_pos h] at hlow; omega
      · rw [if_pos h] at hhigh; omega
    · rw [Lead.ofByte?_four hk] at hlead
      cases hlead
      obtain ⟨t, u, w, rfl⟩ := List.length_eq_three.1 (Nat.succ.inj hfits.length)
      obtain ⟨hlow, hhigh, hu, -⟩ := hfits
      dsimp only at hlow hhigh
      obtain ⟨y, hy, rfl⟩ := isContinuation_iff.1 (hu u (by simp))
      obtain ⟨z, hz, rfl⟩ := isContinuation_iff.1 (hu w (by simp))
      obtain ⟨x, hx, rfl⟩ := exists_continuation (t := t) (by split at hlow <;> omega)
        (by split at hhigh <;> omega)
      rw [toNat_continuation hx] at hlow hhigh
      simp only [Lead.point, List.foldl_cons, List.foldl_nil, toNat_continuation hx,
        toNat_continuation hy, toNat_continuation hz, Nat.add_sub_cancel_left]
      refine .four hk hx hy hz (fun h => ?_) (fun h => ?_)
      · rw [if_pos h] at hlow; omega
      · rw [if_pos h] at hhigh; omega

theorem first?_eq_some_iff {data : Bytes} {c : CodePoint} {n : Nat} :
    first? data = some (c, n) ↔ ∃ bs, Encodes c bs ∧ bs <+: data ∧ n = bs.length := by
  cases data with
  | nil =>
    refine Iff.intro (fun h => nomatch h) ?_
    rintro ⟨bs, henc, hpre, -⟩
    exact absurd (List.prefix_nil.1 hpre) henc.ne_nil
  | cons b rest =>
    rw [first?_cons_eq_some]
    constructor
    · rintro ⟨lead, ts, hlead, hfits, hpre, rfl, rfl⟩
      exact ⟨b :: ts, encodes_cons_iff.2 ⟨lead, hlead, hfits, rfl⟩,
        List.cons_prefix_cons.2 ⟨rfl, hpre⟩, hfits.length.symm⟩
    · rintro ⟨bs, henc, hpre, rfl⟩
      obtain ⟨a, ts, rfl⟩ := List.exists_cons_of_ne_nil henc.ne_nil
      obtain ⟨rfl, hts⟩ := List.cons_prefix_cons.1 hpre
      obtain ⟨lead, hlead, hfits, hc⟩ := encodes_cons_iff.1 henc
      exact ⟨lead, ts, hlead, hfits, hts, hc, hfits.length⟩

namespace Encodes

variable {c d : CodePoint} {bs cs data : Bytes} {b : UInt8}

/-- Data starts with one encoding at most. -/
theorem unique (h : Encodes c bs) (h' : Encodes d cs) (hb : bs <+: data) (hc : cs <+: data) :
    c = d ∧ bs = cs := by
  have e := first?_eq_some_iff.2 ⟨bs, h, hb, rfl⟩
  rw [first?_eq_some_iff.2 ⟨cs, h', hc, rfl⟩] at e
  obtain ⟨rfl, -⟩ := Prod.mk.inj (Option.some.inj e)
  exact ⟨rfl, h.eq_utf8.trans h'.eq_utf8.symm⟩

/-- The lead tells the length. -/
theorem length_eq (h : Encodes c (b :: bs)) (h' : Encodes d (b :: cs)) : bs.length = cs.length := by
  obtain ⟨lead, hlead, hfits, -⟩ := encodes_cons_iff.1 h
  obtain ⟨lead', hlead', hfits', -⟩ := encodes_cons_iff.1 h'
  rw [hlead] at hlead'
  cases hlead'
  exact Nat.succ.inj (hfits.length.trans hfits'.length.symm)

theorem isContinuation_of_mem (h : Encodes c (b :: bs)) {t : UInt8} (ht : t ∈ bs) :
    isContinuation t = true := by
  cases h <;> simp only [List.mem_cons, List.not_mem_nil, or_false] at ht
  · subst ht; exact isContinuation_iff.2 ⟨_, ‹_›, rfl⟩
  · rcases ht with rfl | rfl <;> exact isContinuation_iff.2 ⟨_, ‹_›, rfl⟩
  · rcases ht with rfl | rfl | rfl <;> exact isContinuation_iff.2 ⟨_, ‹_›, rfl⟩

theorem not_isContinuation (h : Encodes c (b :: bs)) : isContinuation b = false := by
  obtain ⟨lead, hlead, -, -⟩ := encodes_cons_iff.1 h
  refine Bool.eq_false_iff.2 fun hcont => ?_
  rw [Lead.ofByte?_continuation hcont] at hlead
  cases hlead

end Encodes

end Utf8

end CaretReport
