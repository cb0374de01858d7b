import CaretReport.Proofs.Source.Lines

/-!
# Lines joined to a source

`Joined ls source` says that the source consists of the lines `ls` with their ends. Cutting such a
source gives the lines back (`Joined.lines_eq`), because what is cut off in front of a line feed
does not depend on what stands behind it (`lines_append`).
-/

namespace CaretReport.Source

/-- The source consists of the lines, each with its end. A line that ends in a carriage return needs
another one in front of its line feed. The last line may have no end if it is not empty and does not
end in a carriage return. -/
inductive Joined : List Bytes → Bytes → Prop
  | nil : Joined [] []
  | last {l : Bytes} (hne : l ≠ []) (hfeed : lineFeed ∉ l)
      (hreturn : l.getLast? ≠ some carriageReturn) :
    Joined [l] l
  | feed {l : Bytes} {ls : List Bytes} {rest : Bytes} (hfeed : lineFeed ∉ l)
    (hreturn : l.getLast? ≠ some carriageReturn) (h : Joined ls rest) :
    Joined (l :: ls) (l ++ lineFeed :: rest)
  | returnFeed {l : Bytes} {ls : List Bytes} {rest : Bytes} (hfeed : lineFeed ∉ l)
    (h : Joined ls rest) : Joined (l :: ls) (l ++ carriageReturn :: lineFeed :: rest)

variable {l piece source : Bytes} {ls : List Bytes}

/-! ### Ends of lines -/

theorem dropReturn_eq_self (h : l.getLast? ≠ some carriageReturn) : dropReturn l = l := if_neg h

theorem dropReturn_concat (l : Bytes) : dropReturn (l ++ [carriageReturn]) = l := by
  rw [dropReturn, if_pos List.getLast?_concat, List.dropLast_concat]

theorem stretches_last (hne : l ≠ []) (hfeed : lineFeed ∉ l) : stretches l = [l] := by
  rw [stretches_eq, List.splitOn_eq_singleton hfeed, withoutEmptyEnd_singleton hne]

theorem stretches_feed (hfeed : lineFeed ∉ piece) (rest : Bytes) :
    stretches (piece ++ lineFeed :: rest) = piece :: stretches rest := by
  obtain ⟨q, ps, hsplit⟩ := List.exists_cons_of_ne_nil (List.splitOn_ne_nil lineFeed rest)
  rw [stretches_eq, stretches_eq, List.splitOn_append_cons_self_of_not_mem hfeed, hsplit,
    withoutEmptyEnd_cons_cons]

theorem lines_feed (hfeed : lineFeed ∉ piece) (rest : Bytes) :
    lines (piece ++ lineFeed :: rest) = dropReturn piece :: lines rest := by
  rw [lines, stretches_feed hfeed, List.map_cons]
  rfl

/-! ### Parts of a source -/

theorem lines_append (a b : Bytes) :
    lines (a ++ lineFeed :: b) = lines (a ++ [lineFeed]) ++ lines b := by
  by_cases h : lineFeed ∈ a
  -- both sides have the line up to the first line feed of `a`; the rest of `a` is shorter
  · obtain ⟨front, rest, heq, hfront⟩ := List.eq_append_cons_of_mem h
    have hshorter : rest.length < a.length := by
      rw [heq, List.length_append, List.length_cons]
      omega
    rw [heq, List.append_assoc, List.append_assoc, List.cons_append, List.cons_append,
      lines_feed hfront, lines_feed hfront, lines_append rest b, List.cons_append]
  · rw [lines_feed h, lines_feed h]
    rfl
termination_by a.length

theorem Joined.lines_eq (h : Joined ls source) : lines source = ls := by
  induction h with
  | nil => rfl
  | last hne hfeed hreturn =>
    rw [lines, stretches_last hne hfeed, List.map_singleton, dropReturn_eq_self hreturn]
  | feed hfeed hreturn h ih => rw [lines_feed hfeed, dropReturn_eq_self hreturn, ih]
  | @returnFeed l ls rest hfeed h ih =>
    have hfeed' : lineFeed ∉ l ++ [carriageReturn] := by
      rw [List.mem_append, List.mem_singleton, not_or]
      exact ⟨hfeed, by decide⟩
    rw [← List.singleton_append, ← List.append_assoc, lines_feed hfeed', dropReturn_concat, ih]

theorem line?_add_one (source : Bytes) (i : Nat) : line? source (i + 1) = (lines source)[i]? := by
  have hpos : (1 : Int) ≤ i + 1 := by omega
  have hindex : ((i : Int) + 1).toNat - 1 = i := by omega
  rw [line?, if_pos hpos, hindex]

theorem line?_of_outside {k : Int} (h : k < 1 ∨ (lines source).length < k) :
    line? source k = none := by
  unfold line?
  split
  · exact List.getElem?_eq_none (by omega)
  · rfl

/-- Lines that are joined to a source are its lines, each under its own number and none under any
other. What stands behind a line feed adds its own lines. -/
theorem lines_joined :
    (∀ (ls : List Bytes) (source : Bytes), Joined ls source →
      lines source = ls ∧
        (∀ (i : Nat) (h : i < ls.length), line? source (i + 1) = some ls[i]) ∧
        ∀ k : Int, k < 1 ∨ ls.length < k → line? source k = none) ∧
      ∀ a b : Bytes, lines (a ++ lineFeed :: b) = lines (a ++ [lineFeed]) ++ lines b := by
  refine ⟨fun ls source hjoined => ?_, lines_append⟩
  have hlines := hjoined.lines_eq
  refine ⟨hlines, fun i h => ?_, fun k hk => ?_⟩
  · rw [line?_add_one, hlines]
    exact List.getElem?_eq_getElem h
  · exact line?_of_outside (by rwa [hlines])

/-- Both ends, an empty line, a line that ends in a carriage return, and a last line without an
end. -/
theorem lines_joined_mixed :
    let source : Bytes := [0x61, 0x0A, 0x0D, 0x0A, 0x62, 0x0D, 0x0D, 0x0A, 0x63]
    lines source = [[0x61], [], [0x62, 0x0D], [0x63]] ∧ line? source 3 = some [0x62, 0x0D] ∧
      line? source 5 = none := by
  intro source
  have hlast : Joined [[0x63]] [0x63] := .last (by decide) (by decide) (by decide)
  have hjoined : Joined [[0x61], [], [0x62, 0x0D], [0x63]] source :=
    .feed (l := [0x61]) (by decide) (by decide)
      (.returnFeed (l := []) (by decide) (.returnFeed (l := [0x62, 0x0D]) (by decide) hlast))
  obtain ⟨hlines, hin, hout⟩ := lines_joined.1 _ _ hjoined
  exact ⟨hlines, hin 2 (by decide), hout 5 (by decide)⟩

end CaretReport.Source
