import CaretReport.Proofs.Package.Reading
import Mathlib.Data.List.TakeWhile

/-!
# The stated version of a package

`Statement` is the form of a statement, `Stated` puts one behind a front of the text that ends a
line, and `FirstStated` picks the one with the shortest front. The search along the text finds that
one if there is any (`findVersion?_spec`), so the version of a package is the first stated
one, or the default without a statement (`File.version_stated`).
-/

namespace CaretReport.Package

open Utf8

/-- The text starts with a statement of the version `v`. -/
inductive Statement (v : Text) : Text → Prop
  | mk {w₁ w₂ : Text} (hw₁ : ∀ c ∈ w₁, c.isBlank = true) (hw₂ : ∀ c ∈ w₂, c.isBlank = true)
    (hne : v ≠ []) (hv : .quotationMark ∉ v) (s : Text) :
    Statement v (("__version__" : Text) ++ w₁ ++ ("=" : Text) ++ w₂ ++
      [CodePoint.quotationMark] ++ v ++ [CodePoint.quotationMark] ++ s)

/-- A line starts behind the text. -/
def StartsLine (p : Text) : Prop := p = [] ∨ p.getLast? = some (.ofChar '\n')

instance (p : Text) : Decidable (StartsLine p) := instDecidableOr

/-- The text states the version `v` behind its front `p`. -/
structure Stated (t p v : Text) : Prop where
  starts : StartsLine p
  statement : ∃ u, t = p ++ u ∧ Statement v u

/-- No statement in the text has a shorter front than this one. -/
structure FirstStated (t p v : Text) : Prop extends Stated t p v where
  least : ∀ q w, Stated t q w → p.length ≤ q.length

variable {start t u v w p q : Text} {c : CodePoint}

/-! ### One statement -/

theorem after?_eq_some_iff : after? start t = some u ↔ t = start ++ u := by
  unfold after?
  constructor
  · intro h
    split_ifs at h with htake
    obtain rfl := Option.some.inj h
    conv_lhs => rw [← List.take_append_drop start.length t, htake]
  · rintro rfl
    simp

/-- Blanks end where something else starts, so the first way to skip them is the only one. -/
theorem after?_dropWhile_eq_some_iff (hc : c.isBlank = false) :
    after? [c] (t.dropWhile CodePoint.isBlank) = some u ↔
      ∃ w, (∀ d ∈ w, d.isBlank = true) ∧ t = w ++ [c] ++ u := by
  rw [after?_eq_some_iff]
  constructor
  · intro h
    refine ⟨t.takeWhile CodePoint.isBlank, fun d => List.mem_takeWhile_imp, ?_⟩
    rw [List.append_assoc, ← h, List.takeWhile_append_dropWhile]
  · rintro ⟨w, hw, rfl⟩
    rw [List.append_assoc, List.dropWhile_append_of_pos hw, List.singleton_append,
      List.dropWhile_cons_of_neg (by simp [hc])]

theorem takeWhile_quoted (hv : .quotationMark ∉ v) (s : Text) :
    (v ++ [CodePoint.quotationMark] ++ s).takeWhile (· ≠ .quotationMark) = v := by
  have hpos : ∀ c ∈ v, decide (c ≠ CodePoint.quotationMark) = true := by
    intro c hc
    exact decide_eq_true fun heq => hv (heq ▸ hc)
  rw [List.append_assoc, List.takeWhile_append_of_pos hpos]
  simp

/-- The stretch in front of the first quotation mark leaves something behind if there is one. -/
theorem takeWhile_quoted_iff :
    t.takeWhile (· ≠ .quotationMark) = v ∧ t.length ≠ v.length ↔
      .quotationMark ∉ v ∧ ∃ s, t = v ++ [CodePoint.quotationMark] ++ s := by
  constructor
  · rintro ⟨rfl, hlen⟩
    by_cases hmem : .quotationMark ∈ t
    · obtain ⟨v, s, rfl, hv⟩ := List.eq_append_cons_of_mem hmem
      rw [List.append_cons, takeWhile_quoted hv]
      exact ⟨hv, s, rfl⟩
    · have hall : t.takeWhile (· ≠ .quotationMark) = t := by
        rw [List.takeWhile_eq_self_iff]
        intro c hc
        exact decide_eq_true fun heq => hmem (heq ▸ hc)
      exact absurd (congrArg List.length hall).symm hlen
  · rintro ⟨hv, s, rfl⟩
    refine ⟨takeWhile_quoted hv s, ?_⟩
    simp

theorem statedVersion?_eq_some_iff : statedVersion? t = some v ↔ Statement v t := by
  have hequals : (CodePoint.ofChar '=').isBlank = false := by decide
  have hquote : CodePoint.quotationMark.isBlank = false := by decide
  simp only [statedVersion?, Option.bind_eq_bind, Option.bind_eq_some_iff]
  constructor
  · rintro ⟨t₁, h₁, t₂, h₂, t₃, h₃, h⟩
    obtain rfl := after?_eq_some_iff.1 h₁
    obtain ⟨w₁, hw₁, rfl⟩ := (after?_dropWhile_eq_some_iff hequals).1 h₂
    obtain ⟨w₂, hw₂, rfl⟩ := (after?_dropWhile_eq_some_iff hquote).1 h₃
    split_ifs at h with hcond
    simp only [Bool.or_eq_true, List.isEmpty_iff, decide_eq_true_eq, not_or] at hcond
    have hv := Option.some.inj h
    rw [hv] at hcond
    obtain ⟨hnot, s, rfl⟩ := takeWhile_quoted_iff.1 ⟨hv, hcond.2⟩
    have hst := Statement.mk hw₁ hw₂ hcond.1 hnot s
    simp only [List.append_assoc] at hst ⊢
    exact hst
  · rintro @⟨w₁, w₂, hw₁, hw₂, hne, hnot, s⟩
    obtain ⟨htake, hlen⟩ := takeWhile_quoted_iff.2 ⟨hnot, s, rfl⟩
    have hassoc : ("__version__" : Text) ++ w₁ ++ ("=" : Text) ++ w₂ ++
        [CodePoint.quotationMark] ++ v ++ [CodePoint.quotationMark] ++ s =
          versionName ++ (w₁ ++ [CodePoint.ofChar '='] ++
            (w₂ ++ [CodePoint.quotationMark] ++ (v ++ [CodePoint.quotationMark] ++ s))) := by
      simp only [List.append_assoc]
      rfl
    refine ⟨_, after?_eq_some_iff.2 hassoc,
      _, (after?_dropWhile_eq_some_iff hequals).2 ⟨w₁, hw₁, rfl⟩,
      _, (after?_dropWhile_eq_some_iff hquote).2 ⟨w₂, hw₂, rfl⟩, ?_⟩
    rw [htake, if_neg]
    simp [hne]

/-! ### The search for the first statement -/

theorem startsLine_snoc : StartsLine (p ++ [c]) ↔ c = '\n' := by
  simp [StartsLine]

theorem stated_append_iff : Stated (p ++ u) p v ↔ StartsLine p ∧ Statement v u := by
  constructor
  · rintro ⟨hp, u', heq, hu'⟩
    obtain rfl := List.append_cancel_left heq
    exact ⟨hp, hu'⟩
  · rintro ⟨hp, hu⟩
    exact ⟨hp, u, rfl, hu⟩

theorem Stated.starts_with (h : Stated t p v) : p <+: t := by
  obtain ⟨-, u, rfl, -⟩ := h
  exact List.prefix_append p u

theorem Stated.version_eq (hv : Stated t p v) (hw : Stated t p w) : v = w := by
  obtain ⟨hp, u, rfl, hu⟩ := hv
  have hu' := (stated_append_iff.1 hw).2
  rw [← statedVersion?_eq_some_iff] at hu hu'
  exact Option.some.inj (hu.symm.trans hu')

theorem Stated.eq_of_length_eq (h : Stated t p v) (hq : q <+: t) (hlen : p.length = q.length) :
    p = q :=
  (List.prefix_of_prefix_length_le h.starts_with hq hlen.le).eq_of_length hlen

theorem FirstStated.version_eq (hv : FirstStated t p v) (hw : FirstStated t q w) : v = w := by
  have hlen := Nat.le_antisymm (hv.least q w hw.toStated) (hw.least p v hv.toStated)
  obtain rfl := hv.eq_of_length_eq hw.starts_with hlen
  exact hv.toStated.version_eq hw.toStated

theorem findVersion?_stated (h : Stated (q ++ c :: u) q v) :
    findVersion? (decide (StartsLine q)) (c :: u) = some v := by
  obtain ⟨hq, hu⟩ := stated_append_iff.1 h
  rw [findVersion?, if_pos (decide_eq_true hq), statedVersion?_eq_some_iff.2 hu]
  rfl

theorem findVersion?_not_stated (h : ¬ ∃ v, Stated (q ++ c :: u) q v) :
    findVersion? (decide (StartsLine q)) (c :: u) =
      findVersion? (decide (StartsLine (q ++ [c]))) u := by
  have hhead : (if decide (StartsLine q) then statedVersion? (c :: u) else none) = none := by
    rw [ite_eq_right_iff, Option.eq_none_iff_forall_not_mem]
    intro hq v hv
    exact h ⟨v, stated_append_iff.2 ⟨of_decide_eq_true hq, statedVersion?_eq_some_iff.1 hv⟩⟩
  simp only [startsLine_snoc]
  rw [findVersion?, hhead]
  rfl

/-- The search goes on behind the front `q`, with no statement behind any shorter one. -/
theorem findVersion?_spec (u : Text) (hpassed : ∀ p v, Stated (q ++ u) p v → q.length ≤ p.length) :
    (∃ p v, FirstStated (q ++ u) p v ∧ findVersion? (decide (StartsLine q)) u = some v) ∨
      ((¬ ∃ p v, Stated (q ++ u) p v) ∧ findVersion? (decide (StartsLine q)) u = none) := by
  induction u generalizing q with
  | nil =>
    refine .inr ⟨?_, rfl⟩
    rintro ⟨p, v, h⟩
    have hle := h.starts_with.length_le
    rw [List.append_nil] at hle
    obtain rfl := h.eq_of_length_eq (List.prefix_append q []) (Nat.le_antisymm hle (hpassed p v h))
    cases statedVersion?_eq_some_iff.2 (stated_append_iff.1 h).2
  | cons c u ih =>
    by_cases hst : ∃ v, Stated (q ++ c :: u) q v
    · obtain ⟨v, hv⟩ := hst
      exact .inl ⟨q, v, ⟨hv, hpassed⟩, findVersion?_stated hv⟩
    · rw [findVersion?_not_stated hst, List.append_cons]
      refine ih fun p v h => ?_
      rw [← List.append_cons] at h
      have hne : q.length ≠ p.length := by
        intro hlen
        obtain rfl := h.eq_of_length_eq (List.prefix_append q (c :: u)) hlen.symm
        exact hst ⟨v, h⟩
      have hle := hpassed p v h
      simp only [List.length_append, List.length_singleton]
      omega

/-! ### The version of a package -/

theorem versionIn_eq_iff : versionIn t = v ↔
    (∃ p, FirstStated t p v) ∨ (v = ("0.0.0" : Text) ∧ ¬ ∃ p w, Stated t p w) := by
  rcases findVersion?_spec (q := []) t fun p _ _ => Nat.zero_le p.length with
    ⟨p, w, hfirst, hfind⟩ | ⟨hnone, hfind⟩
  · have hw : versionIn t = w := congrArg (Option.getD · noVersion) hfind
    rw [hw]
    constructor
    · rintro rfl
      exact .inl ⟨p, hfirst⟩
    · rintro (⟨q, hq⟩ | ⟨-, hnot⟩)
      · exact FirstStated.version_eq hfirst hq
      · exact absurd ⟨p, w, hfirst.toStated⟩ hnot
  · have hdefault : versionIn t = noVersion := congrArg (Option.getD · noVersion) hfind
    rw [hdefault]
    constructor
    · rintro rfl
      exact .inr ⟨rfl, hnone⟩
    · rintro (⟨p, hp⟩ | ⟨rfl, -⟩)
      · exact absurd ⟨p, v, hp.toStated⟩ hnone
      · rfl

/-- The version of a package is read from every well-formed file. It is the version that the text of
the file, with unified line ends, states with the shortest front, or 0.0.0 without a statement. -/
theorem File.version_stated {data : Bytes} {t : Text} (h : WellFormed data)
    (ht : (decode data).Unified t) :
    (∃ v, File.version (.content data) = .ok v) ∧
      ∀ v, File.version (.content data) = .ok v ↔
        (∃ p, FirstStated t p v) ∨ (v = ("0.0.0" : Text) ∧ ¬ ∃ p w, Stated t p w) := by
  obtain rfl := Text.unified_iff.1 ht
  have hmem : Rune.malformed ∉ runes data := List.count_eq_zero.1 (wellFormed_iff_count.1 h)
  have hversion : File.version (.content data) = .ok (versionIn (decode data).unifyNewlines) := by
    rw [File.version, File.read_of_not_mem versionPath hmem]
    rfl
  rw [hversion]
  refine ⟨⟨_, rfl⟩, fun v => ?_⟩
  rw [Except.ok.injEq]
  exact versionIn_eq_iff

/-- A statement of nothing does not count; the one behind it goes over a line end. -/
theorem File.version_stated_near_miss :
    ∃ p, FirstStated "__version__ = \"\"\n__version__ =\n \"2\"" p "2" := by
  let source : Text := "__version__ = \"\"\r__version__ =\r\n \"2\""
  have hwell : WellFormed source.utf8 := wellFormed_utf8 (by decide)
  have hunified : (decode source.utf8).Unified "__version__ = \"\"\n__version__ =\n \"2\"" := by
    rw [decode_utf8 (by decide), Text.unified_iff]
    rfl
  have hread : File.version (.content source.utf8) = .ok ("2" : Text) := rfl
  rcases ((File.version_stated hwell hunified).2 "2").1 hread with hfirst | ⟨hdefault, -⟩
  · exact hfirst
  · exact absurd hdefault (by decide)

/-- A package may state the default as its version. -/
theorem File.not_forall_version_default :
    ¬ ∀ (data : Bytes) (t : Text), WellFormed data → (decode data).Unified t →
      (∀ p v, FirstStated t p v → File.version (.content data) = .ok v) ∧
        (File.version (.content data) = .ok ("0.0.0" : Text) ↔ ¬ ∃ p v, Stated t p v) := by
  intro h
  let t : Text := "__version__ = \"0.0.0\"\n"
  have hwell : WellFormed t.utf8 := wellFormed_utf8 (by decide)
  have hunified : (decode t.utf8).Unified t := by
    rw [decode_utf8 (by decide), Text.unified_iff]
    rfl
  have hst : Stated t [] "0.0.0" := ⟨.inl rfl, t, rfl, statedVersion?_eq_some_iff.1 (by decide)⟩
  have hread : File.version (.content t.utf8) = .ok ("0.0.0" : Text) := rfl
  exact (h t.utf8 t hwell hunified).2.1 hread ⟨[], "0.0.0", hst⟩

end CaretReport.Package
