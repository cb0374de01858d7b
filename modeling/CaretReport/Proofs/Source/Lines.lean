import CaretReport.Source.Basic
import CaretReport.Proofs.Utf8.Cuts

/-!
# Lines of bytes and lines of text

The lines of a source are its pieces between line feeds, less an empty last one (`stretches_eq`).
Line feeds and carriage returns are ASCII, and so reading notices no cut at them: the lines of a
source, decoded, are the lines of the decoded source (`map_decode_lines`).
-/

namespace CaretReport

/-- The pieces without the last one, if that is empty. -/
def withoutEmptyEnd {α : Type} [DecidableEq α] (pieces : List (List α)) : List (List α) :=
  if pieces.getLast? = some [] then pieces.dropLast else pieces

section

variable {α β : Type} [DecidableEq α] [DecidableEq β] {p q : List α} {ps : List (List α)}

theorem withoutEmptyEnd_cons_cons :
    withoutEmptyEnd (p :: q :: ps) = p :: withoutEmptyEnd (q :: ps) := by
  unfold withoutEmptyEnd
  rw [List.getLast?_cons_cons, List.dropLast_cons_cons]
  split <;> rfl

theorem withoutEmptyEnd_singleton (h : p ≠ []) : withoutEmptyEnd [p] = [p] := by
  rw [withoutEmptyEnd, if_neg]
  rw [List.getLast?_singleton, Option.some_inj]
  exact h

theorem withoutEmptyEnd_prefix (ps : List (List α)) : withoutEmptyEnd ps <+: ps := by
  unfold withoutEmptyEnd
  split
  · exact List.dropLast_prefix ps
  · exact List.prefix_rfl

theorem withoutEmptyEnd_map {f : List α → List β} (hf : ∀ p, f p = [] ↔ p = [])
    (ps : List (List α)) :
    withoutEmptyEnd (ps.map f) = (withoutEmptyEnd ps).map f := by
  have hlast : (ps.map f).getLast? = some [] ↔ ps.getLast? = some [] := by
    rw [List.getLast?_map, Option.map_eq_some_iff]
    constructor
    · rintro ⟨p, hp, hnil⟩
      rw [hp, (hf p).1 hnil]
    · intro h
      exact ⟨[], h, (hf []).2 rfl⟩
  unfold withoutEmptyEnd
  simp only [hlast]
  split
  · exact List.map_dropLast.symm
  · rfl

/-- The pieces of a list between the elements that end one, without an empty last one: a recursion
that puts each element in front of the first piece behind it finds them. -/
theorem eq_withoutEmptyEnd {ends : α → Bool} {f : List α → List (List α)} (hnil : f [] = [])
    (hend : ∀ a l, ends a = true → f (a :: l) = [] :: f l)
    (hin : ∀ a l, ends a = false → f (a :: l) = match f l with
      | [] => [[a]]
      | p :: ps => (a :: p) :: ps) (l : List α) :
    f l = withoutEmptyEnd (l.splitOnP ends) := by
  induction l with
  | nil => rw [hnil, List.splitOnP_nil]; rfl
  | cons a l ih =>
    obtain ⟨p, ps, hsplit⟩ := List.exists_cons_of_ne_nil (List.splitOnP_ne_nil ends l)
    rw [List.splitOnP_cons_eq_if_modifyHead, hsplit]
    by_cases ha : ends a = true
    · rw [hend a l ha, if_pos ha, ih, hsplit, withoutEmptyEnd_cons_cons]
    · rw [hin a l (Bool.eq_false_iff.2 ha), if_neg ha, ih, hsplit, List.modifyHead_cons]
      cases ps with
      | cons q ps => rw [withoutEmptyEnd_cons_cons, withoutEmptyEnd_cons_cons]
      | nil =>
        rw [withoutEmptyEnd_singleton (List.cons_ne_nil a p)]
        rcases eq_or_ne p [] with rfl | hp
        · rfl
        · rw [withoutEmptyEnd_singleton hp]

end

/-- A piece holds elements of the list that end no piece. -/
theorem of_mem_splitOnP {α : Type} {ends : α → Bool} {a : α} {l p : List α}
    (hp : p ∈ l.splitOnP ends) (ha : a ∈ p) : a ∈ l ∧ ends a = false := by
  induction l generalizing p with
  | nil =>
    rw [List.splitOnP_nil, List.mem_singleton] at hp
    subst hp
    cases ha
  | cons b l ih =>
    have hmore : ∀ q ∈ l.splitOnP ends, a ∈ q → a ∈ b :: l ∧ ends a = false := by
      intro q hq haq
      obtain ⟨hmem, hends⟩ := ih hq haq
      exact ⟨List.mem_cons_of_mem b hmem, hends⟩
    obtain ⟨q, qs, hsplit⟩ := List.exists_cons_of_ne_nil (List.splitOnP_ne_nil ends l)
    rw [hsplit] at hmore
    rw [List.splitOnP_cons_eq_if_modifyHead, hsplit] at hp
    split at hp
    · rcases List.mem_cons.1 hp with rfl | hp
      · cases ha
      · exact hmore p hp ha
    · next hb =>
      rw [List.modifyHead_cons] at hp
      rcases List.mem_cons.1 hp with rfl | hp
      · rcases List.mem_cons.1 ha with rfl | ha
        · exact ⟨List.mem_cons_self, Bool.eq_false_iff.2 hb⟩
        · exact hmore q List.mem_cons_self ha
      · exact hmore p (List.mem_cons_of_mem q hp) ha

namespace CodePoint

def lineFeed : CodePoint := '\n'

def carriageReturn : CodePoint := '\r'

end CodePoint

namespace Text

def dropReturn (t : Text) : Text := if t.getLast? = some .carriageReturn then t.dropLast else t

/-- The lines of a text, cut at line feeds and at no other line breaks. -/
def sourceLines (t : Text) : List Text := (withoutEmptyEnd (t.splitOn .lineFeed)).map dropReturn

end Text

namespace Source

open Utf8

variable {source line piece : Bytes} {n : Nat}

/-! ### Lines as pieces -/

theorem stretches_eq (source : Bytes) :
    stretches source = withoutEmptyEnd (source.splitOn lineFeed) := by
  refine eq_withoutEmptyEnd rfl (fun b rest hb => ?_) (fun b rest hb => ?_) source
  · rw [stretches, if_pos (beq_iff_eq.1 hb)]
  · rw [stretches, if_neg (beq_eq_false_iff_ne.1 hb)]
    cases stretches rest <;> rfl

/-- The number of lines: one for each line feed, and one for what is left behind the last. -/
def lineCount (source : Bytes) : Nat :=
  source.count lineFeed + if source = [] ∨ source.getLast? = some lineFeed then 0 else 1

theorem lineCount_feed (rest : Bytes) : lineCount (lineFeed :: rest) = lineCount rest + 1 := by
  unfold lineCount
  rw [List.count_cons_self]
  cases rest with
  | nil => rfl
  | cons a rest =>
    simp only [List.getLast?_cons_cons, reduceCtorEq, false_or]
    omega

theorem lineCount_of_ne {b : UInt8} (hb : b ≠ lineFeed) (rest : Bytes) :
    lineCount (b :: rest) = max 1 (lineCount rest) := by
  unfold lineCount
  rw [List.count_cons_of_ne hb]
  cases rest with
  | nil => simp [hb]
  | cons a rest =>
    simp only [List.getLast?_cons_cons, reduceCtorEq, false_or]
    split
    · next h =>
      have hpos := List.count_pos_iff.2 (List.mem_of_getLast? h)
      omega
    · omega

theorem length_stretches (source : Bytes) : (stretches source).length = lineCount source := by
  induction source with
  | nil => rfl
  | cons b rest ih =>
    rw [stretches]
    split
    · next hb => rw [hb, lineCount_feed, List.length_cons, ih]
    · next hb =>
      rw [lineCount_of_ne hb, ← ih]
      cases stretches rest with
      | nil => rfl
      | cons s ss =>
        rw [List.length_cons, List.length_cons]
        omega

theorem line?_eq_none (h : lineCount source < n) : line? source n = none := by
  rw [line?, if_pos (by omega), lines, List.getElem?_map, Int.toNat_natCast,
    List.getElem?_eq_none (by rw [length_stretches]; omega)]
  rfl

theorem exists_line? (hpos : 0 < n) (hle : n ≤ lineCount source) :
    ∃ piece, (source.splitOn lineFeed)[n - 1]? = some piece ∧
      line? source n = some (dropReturn piece) := by
  have hlt : n - 1 < (stretches source).length := by
    rw [length_stretches]
    omega
  have hpre : stretches source <+: source.splitOn lineFeed :=
    stretches_eq source ▸ withoutEmptyEnd_prefix _
  refine ⟨(stretches source)[n - 1], List.prefix_iff_getElem?.1 hpre _ hlt, ?_⟩
  rw [line?, if_pos (by omega), lines, List.getElem?_map, Int.toNat_natCast,
    List.getElem?_eq_getElem hlt]
  rfl

theorem not_mem_of_mem_stretches (h : piece ∈ stretches source) : lineFeed ∉ piece := by
  rw [stretches_eq] at h
  have hpre := withoutEmptyEnd_prefix (source.splitOn lineFeed)
  intro hmem
  have hends := (of_mem_splitOnP (hpre.subset h) hmem).2
  rw [beq_self_eq_true] at hends
  cases hends

theorem not_mem_of_line? (h : line? source n = some line) : lineFeed ∉ line := by
  unfold line? at h
  split at h
  · obtain ⟨piece, hpiece, rfl⟩ := List.mem_map.1 (List.mem_of_getElem? h)
    intro hmem
    refine not_mem_of_mem_stretches hpiece ?_
    unfold dropReturn at hmem
    split at hmem
    · exact (List.dropLast_sublist piece).subset hmem
    · exact hmem
  · cases h

theorem length_le_of_mem_stretches (h : piece ∈ stretches source) :
    piece.length ≤ source.length := by
  induction source generalizing piece with
  | nil => cases h
  | cons b rest ih =>
    rw [stretches] at h
    split at h
    · rcases List.mem_cons.1 h with rfl | h
      · exact Nat.zero_le _
      · exact Nat.le_succ_of_le (ih h)
    · cases hrest : stretches rest with
      | nil =>
        rw [hrest] at h
        rw [List.mem_singleton.1 h, List.length_cons, List.length_cons]
        exact Nat.succ_le_succ (Nat.zero_le _)
      | cons s ss =>
        rw [hrest] at h ih
        rcases List.mem_cons.1 h with rfl | h
        · exact Nat.succ_le_succ (ih List.mem_cons_self)
        · exact Nat.le_succ_of_le (ih (List.mem_cons_of_mem s h))

theorem length_stretches_le (source : Bytes) : (stretches source).length ≤ source.length := by
  induction source with
  | nil => exact Nat.le_refl 0
  | cons b rest ih =>
    rw [stretches]
    split
    · exact Nat.succ_le_succ ih
    · cases hrest : stretches rest with
      | nil => exact Nat.succ_le_succ (Nat.zero_le _)
      | cons s ss =>
        rw [hrest] at ih
        exact Nat.le_succ_of_le ih

/-- Neither the number of a line nor its length is greater than the length of the source. -/
theorem bounds_of_line? (h : line? source n = some line) :
    n ≤ source.length ∧ line.length ≤ source.length := by
  unfold line? at h
  split at h
  · have hcount := length_stretches_le source
    obtain ⟨hlt, -⟩ := List.getElem?_eq_some_iff.1 h
    rw [lines, List.length_map, Int.toNat_natCast] at hlt
    refine ⟨by omega, ?_⟩
    obtain ⟨piece, hpiece, rfl⟩ := List.mem_map.1 (List.mem_of_getElem? h)
    refine Nat.le_trans ?_ (length_le_of_mem_stretches hpiece)
    unfold dropReturn
    split
    · exact (List.dropLast_sublist piece).length_le
    · exact Nat.le_refl _
  · cases h

/-! ### Decoded lines -/

theorem isAscii_lineFeed : IsAscii lineFeed := by decide

theorem isAscii_carriageReturn : IsAscii carriageReturn := by decide

theorem ascii_lineFeed : ascii lineFeed = .lineFeed := rfl

theorem ascii_carriageReturn : ascii carriageReturn = .carriageReturn := rfl

/-- Cutting at line feeds commutes with decoding. -/
theorem map_decode_splitOn (source : Bytes) :
    (source.splitOn lineFeed).map decode = (decode source).splitOn .lineFeed := by
  by_cases h : lineFeed ∈ source
  · obtain ⟨front, rest, heq, hfront⟩ := List.eq_append_cons_of_mem h
    have hshorter : rest.length < source.length := by
      rw [heq, List.length_append, List.length_cons]
      omega
    have hfront' : CodePoint.lineFeed ∉ decode front := mt isAscii_lineFeed.mem_decode_iff.1 hfront
    rw [heq, List.splitOn_append_cons_self_of_not_mem hfront, List.map_cons,
      map_decode_splitOn rest,
      isAscii_lineFeed.decode_append_cons, ascii_lineFeed,
      List.splitOn_append_cons_self_of_not_mem hfront']
  · have h' : CodePoint.lineFeed ∉ decode source := mt isAscii_lineFeed.mem_decode_iff.1 h
    rw [List.splitOn_eq_singleton h, List.splitOn_eq_singleton h', List.map_singleton]
termination_by source.length

/-- Dropping a carriage return commutes with decoding. -/
theorem decode_dropReturn (line : Bytes) : decode (dropReturn line) = (decode line).dropReturn := by
  unfold dropReturn Text.dropReturn
  by_cases h : line.getLast? = some carriageReturn
  · have h' := isAscii_carriageReturn.getLast?_decode_iff.2 h
    rw [ascii_carriageReturn] at h'
    rw [if_pos h, if_pos h']
    obtain ⟨front, rfl⟩ := List.getLast?_eq_some_iff.1 h
    rw [isAscii_carriageReturn.decode_append_cons, decode_nil, List.dropLast_concat,
      List.dropLast_concat]
  · have h' := mt isAscii_carriageReturn.getLast?_decode_iff.1 h
    rw [ascii_carriageReturn] at h'
    rw [if_neg h, if_neg h']

theorem map_decode_lines (source : Bytes) :
    (lines source).map decode = (decode source).sourceLines := by
  have hcomm : decode ∘ dropReturn = Text.dropReturn ∘ decode := funext decode_dropReturn
  calc (lines source).map decode
      = (withoutEmptyEnd (source.splitOn lineFeed)).map (decode ∘ dropReturn) := by
        rw [lines, stretches_eq, List.map_map]
    _ = ((withoutEmptyEnd (source.splitOn lineFeed)).map decode).map Text.dropReturn := by
        rw [hcomm, List.map_map]
    _ = (withoutEmptyEnd ((decode source).splitOn .lineFeed)).map Text.dropReturn := by
        rw [← withoutEmptyEnd_map fun p => decode_eq_nil_iff, map_decode_splitOn]

/-- Cutting a source into lines commutes with decoding it, so the lines of an encoded text are
decoded to the lines of the text. -/
theorem lines_decode_comm :
    (∀ source : Bytes, (lines source).map decode = (decode source).sourceLines) ∧
      ∀ t : Text, (∀ c ∈ t, c.isSurrogate = false) → (lines t.utf8).map decode = t.sourceLines := by
  refine ⟨map_decode_lines, fun t h => ?_⟩
  rw [map_decode_lines, decode_utf8 h]

-- a sequence that is cut off by a line feed does not swallow it
example : (lines [0xE6, 0x97, 0x0A, 0xA5]).map decode = ["��", "�"] := by cbv

/-- A carriage return inside a line, a line that is only one, and a last line without an end. -/
theorem lines_decode_comm_returns :
    (lines (Text.utf8 "日\r本\r\n\r\n\né\r")).map decode = ["日\r本", "", "", "é"] := by
  have h := lines_decode_comm.2 "日\r本\r\n\r\n\né\r" (by decide)
  exact h.trans (by decide)

end Source

end CaretReport
