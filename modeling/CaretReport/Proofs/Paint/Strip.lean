import CaretReport.Paint.Basic

/-!
# Text without its escape sequences

An escape sequence is an escape, a bracket, digits and semicolons, and an `m`. `strip` deletes from
left to right every one that does not overlap an earlier one. Texts in a row can be stripped one by
one if no escape sequence crosses a border between them (`Uncrossed`). A library that puts escape
sequences around a text (`Colouring.Wraps`) keeps it so, since these start with an escape and end
with an `m`: stripping takes the paint off one text (`strip_render`) and off a row of them
(`strip_flatten_render`).
-/

namespace CaretReport.Escape

/-- Whether a code point can stand between the bracket and the `m` of an escape sequence. -/
def isParameter (c : CodePoint) : Bool := (0x30 ≤ c.val && c.val ≤ 0x39) || c.val = 0x3B

/-- The text is one escape sequence. -/
def IsEscape (m : Text) : Prop :=
  ∃ ps : Text, m = Colouring.escape :: .ofChar '[' :: (ps ++ [.ofChar 'm']) ∧
    ∀ c ∈ ps, isParameter c

/-- What stands behind the escape sequence that a text starts with, if it starts with one. -/
def after? : Text → Option Text
  | c :: d :: t =>
    if c = Colouring.escape ∧ d = .ofChar '[' then
      match t.dropWhile isParameter with
      | e :: u => if e = .ofChar 'm' then some u else none
      | [] => none
    else none
  | _ => none

variable {a m t u : Text} {c : CodePoint} {ts : List Text}

theorem after?_eq_some_iff : after? t = some u ↔ ∃ m, IsEscape m ∧ t = m ++ u := by
  constructor
  · intro h
    rcases t with _ | ⟨c, _ | ⟨d, t⟩⟩
    · cases h
    · cases h
    rw [after?] at h
    split at h
    case isFalse => cases h
    next hstart =>
    obtain ⟨rfl, rfl⟩ := hstart
    split at h
    case h_2 => cases h
    next e v hrest =>
    split at h
    case isFalse => cases h
    next hend =>
    cases h
    subst hend
    have ht := t.takeWhile_append_dropWhile (p := isParameter)
    rw [hrest] at ht
    refine ⟨_, ⟨t.takeWhile isParameter, rfl, fun c hc => ?_⟩, by simp [ht]⟩
    exact List.all_eq_true.1 (List.all_takeWhile ..) c hc
  · rintro ⟨_, ⟨ps, rfl, hps⟩, rfl⟩
    have hrest : (ps ++ [CodePoint.ofChar 'm'] ++ u).dropWhile isParameter = .ofChar 'm' :: u := by
      rw [List.append_assoc, List.dropWhile_append_of_pos hps]
      rfl
    rw [List.cons_append, List.cons_append, after?, hrest]
    simp

theorem IsEscape.ne_nil (h : IsEscape m) : m ≠ [] := by
  obtain ⟨ps, rfl, -⟩ := h
  exact List.cons_ne_nil _ _

theorem length_lt_of_after? (h : after? t = some u) : u.length < t.length := by
  obtain ⟨m, hm, rfl⟩ := after?_eq_some_iff.1 h
  have hpos := List.length_pos_iff.2 hm.ne_nil
  rw [List.length_append]
  omega

/-- A text without its escape sequences. -/
def strip (t : Text) : Text :=
  match _ : after? t with
  | some u => strip u
  | none =>
    match t with
    | [] => []
    | c :: t => c :: strip t
termination_by t.length
decreasing_by
  · exact length_lt_of_after? ‹_›
  · exact Nat.lt_succ_self _

/-! ### Stripping from the left -/

theorem strip_nil : strip [] = [] := by rw [strip]; rfl

theorem strip_escape_append (h : IsEscape m) : strip (m ++ t) = strip t := by
  have hafter : after? (m ++ t) = some t := after?_eq_some_iff.2 ⟨m, h, rfl⟩
  rw [strip]
  split
  · next u hu => rw [hafter] at hu; cases hu; rfl
  · next hu => rw [hafter] at hu; cases hu

theorem after?_eq_none_iff : after? t = none ↔ ∀ m, IsEscape m → ¬ m <+: t := by
  rw [Option.eq_none_iff_forall_ne_some]
  constructor
  · rintro h m hm ⟨u, rfl⟩
    exact h u (after?_eq_some_iff.2 ⟨m, hm, rfl⟩)
  · intro h u hu
    obtain ⟨m, hm, rfl⟩ := after?_eq_some_iff.1 hu
    exact h m hm (List.prefix_append m u)

theorem strip_cons (h : ∀ m, IsEscape m → ¬ m <+: c :: t) : strip (c :: t) = c :: strip t := by
  have hafter : after? (c :: t) = none := after?_eq_none_iff.2 h
  rw [strip]
  split
  · next u hu => rw [hafter] at hu; cases hu
  · rfl

/-- The rest of a text is stripped behind an escape sequence, or behind a code point at which none
starts. -/
theorem strip_induction {motive : Text → Prop} (nil : motive [])
    (escape : ∀ m t, IsEscape m → motive t → motive (m ++ t))
    (cons : ∀ c t, (∀ m, IsEscape m → ¬ m <+: c :: t) → motive t → motive (c :: t)) (t : Text) :
    motive t := by
  induction t using strip.induct with
  | case1 t u h ih =>
    obtain ⟨m, hm, rfl⟩ := after?_eq_some_iff.1 h
    exact escape m u hm ih
  | case2 => exact nil
  | case3 c t h ih => exact cons c t (after?_eq_none_iff.1 h) ih

theorem strip_eq_self (h : ∀ m, IsEscape m → ¬ m <:+: t) : strip t = t := by
  induction t with
  | nil => exact strip_nil
  | cons c t ih =>
    rw [strip_cons fun m hm hp => h m hm hp.isInfix, ih fun m hm hi => h m hm (hi.trans ?_)]
    exact (List.suffix_cons c t).isInfix

/-! ### Texts in a row -/

/-- No escape sequence starts in the one text and ends in the other behind it. -/
def Apart (a t : Text) : Prop := ∀ p q, IsEscape (p ++ q) → p <:+ a → q <+: t → p = [] ∨ q = []

theorem Apart.of_suffix (h : Apart a t) (hu : u <:+ a) : Apart u t :=
  fun p q hm hp hq => h p q hm (hp.trans hu) hq

theorem strip_append (h : Apart a t) : strip (a ++ t) = strip a ++ strip t := by
  induction a using strip_induction with
  | nil => rw [strip_nil, List.nil_append, List.nil_append]
  | escape m a hm ih =>
    rw [List.append_assoc, strip_escape_append hm, strip_escape_append hm,
      ih (h.of_suffix (List.suffix_append m a))]
  | cons c a hc ih =>
    -- an escape sequence that starts at `c` would lie in the first text, or cross the border
    have hnone : ∀ m, IsEscape m → ¬ m <+: c :: (a ++ t) := by
      rintro m hm ⟨u, hu⟩
      rcases List.append_eq_append_iff.1 (hu.trans List.cons_append.symm) with
        ⟨q, hq, -⟩ | ⟨q, rfl, hq⟩
      · exact hc m hm ⟨q, hq.symm⟩
      · rcases h (c :: a) q hm List.suffix_rfl ⟨u, hq.symm⟩ with hnil | rfl
        · cases hnil
        · rw [List.append_nil] at hm
          exact hc _ hm List.prefix_rfl
    rw [List.cons_append, strip_cons hnone, strip_cons hc, List.cons_append,
      ih (h.of_suffix (List.suffix_cons c a))]

/-! ### Borders that no escape sequence crosses -/

/-- The code points of an escape sequence that are not its last one. -/
def IsOpen (c : CodePoint) : Prop := c = Colouring.escape ∨ c = .ofChar '[' ∨ isParameter c

/-- The code points of an escape sequence that are not its first one. -/
def IsInner (c : CodePoint) : Prop := c = .ofChar '[' ∨ isParameter c ∨ c = .ofChar 'm'

theorem IsEscape.isOpen_of_mem_dropLast (h : IsEscape m) (hc : c ∈ m.dropLast) : IsOpen c := by
  obtain ⟨ps, rfl, hps⟩ := h
  rw [← List.cons_append, ← List.cons_append, List.dropLast_concat] at hc
  rcases List.mem_cons.1 hc with rfl | hc
  · exact .inl rfl
  rcases List.mem_cons.1 hc with rfl | hc
  · exact .inr (.inl rfl)
  · exact .inr (.inr (hps c hc))

theorem IsEscape.isInner_of_mem_tail (h : IsEscape m) (hc : c ∈ m.tail) : IsInner c := by
  obtain ⟨ps, rfl, hps⟩ := h
  rcases List.mem_cons.1 hc with rfl | hc
  · exact .inl rfl
  rcases List.mem_append.1 hc with hc | hc
  · exact .inr (.inl (hps c hc))
  · exact .inr (.inr (List.mem_singleton.1 hc))

/-- No escape sequence goes beyond the end of the text. -/
def Closed (t : Text) : Prop := ∀ c ∈ t.getLast?, ¬ IsOpen c

/-- No escape sequence comes into the text from before its start. -/
def Fresh (t : Text) : Prop := ∃ c ∈ t.head?, ¬ IsInner c

instance : DecidablePred IsOpen := fun _ => inferInstanceAs (Decidable (_ ∨ _ ∨ _))

instance : DecidablePred IsInner := fun _ => inferInstanceAs (Decidable (_ ∨ _ ∨ _))

instance : Decidable (Closed t) := inferInstanceAs (Decidable (∀ c ∈ t.getLast?, ¬ IsOpen c))

instance : Decidable (Fresh t) := inferInstanceAs (Decidable (∃ c ∈ t.head?, ¬ IsInner c))

theorem Closed.append_left (h : Closed t) (ht : t ≠ []) (a : Text) : Closed (a ++ t) := by
  have hlast : (a ++ t).getLast? = t.getLast? := by
    rw [List.getLast?_append, List.getLast?_eq_some_getLast ht]
    rfl
  rw [Closed, hlast]
  exact h

theorem Fresh.append_right (h : Fresh t) (u : Text) : Fresh (t ++ u) := by
  obtain ⟨c, hc, hinner⟩ := h
  obtain ⟨v, rfl⟩ := List.head?_eq_some_iff.1 hc
  exact ⟨c, rfl, hinner⟩

theorem Closed.apart (h : Closed a) (t : Text) : Apart a t := by
  rintro p q hm ⟨b, rfl⟩ -
  rcases p.eq_nil_or_concat with rfl | ⟨p, c, rfl⟩
  · exact .inl rfl
  rcases q with _ | ⟨d, q⟩
  · exact .inr rfl
  have hopen : IsOpen c := by
    refine hm.isOpen_of_mem_dropLast ?_
    rw [List.dropLast_append_of_ne_nil (List.cons_ne_nil d q)]
    simp
  exact absurd hopen (h c (by simp))

theorem Fresh.apart (h : Fresh t) (a u : Text) : Apart a (t ++ u) := by
  rintro p q hm - ⟨v, hv⟩
  obtain ⟨c, hc, hinner⟩ := h
  rcases p with _ | ⟨d, p⟩
  · exact .inl rfl
  rcases q with _ | ⟨e, q⟩
  · exact .inr rfl
  have he : e = c := by
    obtain ⟨t, rfl⟩ := List.head?_eq_some_iff.1 hc
    exact (List.cons.inj hv).1
  subst he
  exact absurd (hm.isInner_of_mem_tail (by simp)) hinner

/-- No escape sequence crosses a border between the texts. -/
inductive Uncrossed : List Text → Prop
  | nil : Uncrossed []
  | closed {t : Text} {ts : List Text} (h : Closed t) (hs : Uncrossed ts) : Uncrossed (t :: ts)
  | fresh {t u : Text} {ts : List Text} (h : Fresh u) (hs : Uncrossed (u :: ts)) :
    Uncrossed (t :: u :: ts)

theorem Uncrossed.strip_flatten (h : Uncrossed ts) : strip ts.flatten = (ts.map strip).flatten := by
  induction h with
  | nil => exact strip_nil
  | @closed t ts h _ ih => rw [List.flatten_cons, strip_append (h.apart _), ih]; rfl
  | @fresh t u ts h _ ih =>
    have hapart : Apart t (u :: ts).flatten := h.apart t ts.flatten
    rw [List.flatten_cons, strip_append hapart, ih]
    rfl

/-! ### Paint -/

theorem isEscape_escapeSequence (n : Nat) : IsEscape (Colouring.escapeSequence n) := by
  refine ⟨Text.ofNat n, rfl, fun c hc => ?_⟩
  obtain ⟨hlow, hhigh⟩ := Text.val_of_mem_ofNat hc
  simp [isParameter, hlow, hhigh]

end CaretReport.Escape

namespace CaretReport

open Escape

/-- What the library is forced to colour stands between escape sequences, and is not changed. -/
structure Colouring.Wraps (colored : Colouring) : Prop where
  forced : ∀ env colour attributes t, ∃ before after : List Text,
    (∀ m ∈ before, IsEscape m) ∧ (∀ m ∈ after, IsEscape m) ∧
      colored env true colour attributes t = before.flatten ++ t ++ after.flatten

theorem Colouring.wraps_ansi : ansi.Wraps := by
  refine ⟨fun env colour attributes t => ?_⟩
  let codes := (attributes.getD []).reverse.map attributeCode ++ colour.toList.map colourCode
  refine ⟨codes.map escapeSequence, [escapeSequence 0], ?_, ?_, ?_⟩
  · intro m hm
    obtain ⟨n, -, rfl⟩ := List.mem_map.1 hm
    exact isEscape_escapeSequence n
  · intro m hm
    rw [List.mem_singleton.1 hm]
    exact isEscape_escapeSequence 0
  · rw [← List.flatMap_def, List.flatten_singleton]
    rfl

namespace Escape

variable {t : Text} {ms before after : List Text}

/-! ### Between escape sequences -/

theorem strip_flatten_append (h : ∀ m ∈ ms, IsEscape m) (t : Text) :
    strip (ms.flatten ++ t) = strip t := by
  induction ms with
  | nil => rfl
  | cons m ms ih =>
    rw [List.flatten_cons, List.append_assoc, strip_escape_append (h m List.mem_cons_self),
      ih fun m' hm' => h m' (List.mem_cons_of_mem m hm')]

theorem fresh_flatten (h : ∀ m ∈ ms, IsEscape m) (hne : ms ≠ []) : Fresh ms.flatten := by
  obtain ⟨m, ms, rfl⟩ := List.exists_cons_of_ne_nil hne
  obtain ⟨ps, rfl, -⟩ := h m List.mem_cons_self
  exact ⟨Colouring.escape, rfl, by decide⟩

theorem closed_flatten (h : ∀ m ∈ ms, IsEscape m) : Closed ms.flatten := by
  rcases ms.eq_nil_or_concat with rfl | ⟨ms, m, rfl⟩
  · rintro c ⟨⟩
  · obtain ⟨ps, rfl, -⟩ := h m (by simp)
    have hend : Closed (Colouring.escape :: .ofChar '[' :: (ps ++ [.ofChar 'm'])) := by
      intro c hc
      rw [← List.cons_append, ← List.cons_append, List.getLast?_concat] at hc
      cases hc
      decide
    rw [List.concat_eq_append, List.flatten_append, List.flatten_singleton]
    exact hend.append_left (List.cons_ne_nil _ _) _

theorem ne_nil_of_flatten (h : ∀ m ∈ ms, IsEscape m) (hne : ms ≠ []) : ms.flatten ≠ [] := by
  obtain ⟨c, hc, -⟩ := fresh_flatten h hne
  rintro hnil
  rw [hnil] at hc
  cases hc

theorem strip_between (hbefore : ∀ m ∈ before, IsEscape m) (hafter : ∀ m ∈ after, IsEscape m)
    (t : Text) : strip (before.flatten ++ t ++ after.flatten) = strip t := by
  rw [List.append_assoc, strip_flatten_append hbefore]
  rcases Decidable.em (after = []) with rfl | hne
  · rw [List.flatten_nil, List.append_nil]
  · have hapart := (fresh_flatten hafter hne).apart t []
    have hnone := strip_flatten_append hafter []
    rw [List.append_nil] at hapart hnone
    rw [strip_append hapart, hnone, strip_nil, List.append_nil]

theorem Closed.between (h : Closed t) (hbefore : ∀ m ∈ before, IsEscape m)
    (hafter : ∀ m ∈ after, IsEscape m) : Closed (before.flatten ++ t ++ after.flatten) := by
  rcases Decidable.em (after = []) with rfl | hne
  · rw [List.flatten_nil, List.append_nil]
    rcases Decidable.em (t = []) with rfl | ht
    · rw [List.append_nil]
      exact closed_flatten hbefore
    · exact h.append_left ht _
  · exact (closed_flatten hafter).append_left (ne_nil_of_flatten hafter hne) _

theorem Fresh.between (h : Fresh t) (hbefore : ∀ m ∈ before, IsEscape m) (after : List Text) :
    Fresh (before.flatten ++ t ++ after.flatten) := by
  rw [List.append_assoc]
  rcases Decidable.em (before = []) with rfl | hne
  · exact h.append_right _
  · exact (fresh_flatten hbefore hne).append_right _

/-! ### Pieces -/

variable {colored : Colouring} {env : Environment} {p : Painter} {piece : Piece}
  {pieces : List Piece}

/-- A painter leaves a piece as it is, or has it coloured. -/
theorem render_eq (colored : Colouring) (env : Environment) (p : Painter) (piece : Piece) :
    piece.render colored env p = piece.text ∨ ∃ colour attributes,
      piece.render colored env p = colored env true colour attributes piece.text := by
  rcases piece with ⟨_ | role, t⟩
  · exact .inl rfl
  · simp only [Piece.render, Painter.paint]
    split
    · exact .inl rfl
    · exact .inr ⟨_, _, rfl⟩

theorem strip_render (h : colored.Wraps) (env : Environment) (p : Painter) (piece : Piece) :
    strip (piece.render colored env p) = strip piece.text := by
  rcases render_eq colored env p piece with heq | ⟨colour, attributes, heq⟩
  · rw [heq]
  · obtain ⟨before, after, hbefore, hafter, hwrapped⟩ := h.forced env colour attributes piece.text
    rw [heq, hwrapped, strip_between hbefore hafter]

theorem Closed.render (hclosed : Closed piece.text) (h : colored.Wraps) (env : Environment)
    (p : Painter) : Closed (piece.render colored env p) := by
  rcases render_eq colored env p piece with heq | ⟨colour, attributes, heq⟩
  · rwa [heq]
  · obtain ⟨before, after, hbefore, hafter, hwrapped⟩ := h.forced env colour attributes piece.text
    rw [heq, hwrapped]
    exact hclosed.between hbefore hafter

theorem Fresh.render (hfresh : Fresh piece.text) (h : colored.Wraps) (env : Environment)
    (p : Painter) : Fresh (piece.render colored env p) := by
  rcases render_eq colored env p piece with heq | ⟨colour, attributes, heq⟩
  · rwa [heq]
  · obtain ⟨before, after, hbefore, -, hwrapped⟩ := h.forced env colour attributes piece.text
    rw [heq, hwrapped]
    exact hfresh.between hbefore after

theorem Uncrossed.render (huncrossed : Uncrossed (pieces.map Piece.text)) (h : colored.Wraps)
    (env : Environment) (p : Painter) : Uncrossed (pieces.map (Piece.render colored env p)) := by
  generalize hts : pieces.map Piece.text = ts at huncrossed
  induction huncrossed generalizing pieces with
  | nil =>
    rw [List.map_eq_nil_iff.1 hts]
    exact .nil
  | closed hclosed _ ih =>
    obtain ⟨piece, pieces, rfl, rfl, rfl⟩ := List.map_eq_cons_iff.1 hts
    exact .closed (hclosed.render h env p) (ih rfl)
  | fresh hfresh _ ih =>
    obtain ⟨piece, pieces, rfl, rfl, hrest⟩ := List.map_eq_cons_iff.1 hts
    have hpainted := ih hrest
    obtain ⟨next, pieces, rfl, rfl, -⟩ := List.map_eq_cons_iff.1 hrest
    exact .fresh (hfresh.render h env p) hpainted

/-- Pieces whose texts no escape sequence crosses can be painted, and the paint taken off again. -/
theorem strip_flatten_render (huncrossed : Uncrossed (pieces.map Piece.text)) (h : colored.Wraps)
    (env : Environment) (p : Painter) :
    strip (pieces.map (Piece.render colored env p)).flatten =
      strip (pieces.map Piece.text).flatten := by
  have hstrip : strip ∘ Piece.render colored env p = strip ∘ Piece.text :=
    funext (strip_render h env p)
  rw [(huncrossed.render h env p).strip_flatten, huncrossed.strip_flatten, List.map_map,
    List.map_map, hstrip]

end Escape

end CaretReport
