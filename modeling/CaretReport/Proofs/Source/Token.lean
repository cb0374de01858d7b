import CaretReport.Proofs.Source.Drawing
import CaretReport.Proofs.Utf8.Cuts

/-!
# Tokens on raw bytes

A token ends at the first blank. The blanks are bytes of ASCII, so the end of a token can be found
without decoding (`tokenEnd`), and the token is read from the bytes in front of it alone
(`token_runes_append`). The marker under a column follows: `Marker.atColumn_on_bytes`.
-/

namespace CaretReport.Marker

open Utf8 Cells

/-- The bytes that end a token. -/
def blankBytes : List UInt8 := [0x20, 0x09, 0x0D, 0x0A]

/-- The first place at or behind `start` that holds a blank byte, or the end of the line if there is
none. -/
def tokenEnd (line : Bytes) (start : Nat) : Nat :=
  min line.length (start + (line.drop start).findIdx blankBytes.contains)

variable {m : Machine} {width : Width} {glyphs : Glyphs} {line front back data : Bytes}
  {start : Nat} {b : UInt8}
  {rs rs' : List Rune} {r : Rune}

/-! ### Blanks -/

theorem blanks_eq : blanks = blankBytes.map ascii := rfl

theorem isAscii_of_mem_blankBytes (h : b ∈ blankBytes) : IsAscii b := by
  have hall : ∀ b ∈ blankBytes, IsAscii b := by decide +kernel
  exact hall b h

theorem isBlank_iff : isBlank r = true ↔ ∃ b ∈ blankBytes, r.point = some (ascii b) := by
  obtain ⟨_ | c, n⟩ := r
  · simp [isBlank]
  · simp [isBlank, blanks_eq, eq_comm]

theorem isBlank_of_mem_runes (h : ∀ b ∈ data, b ∉ blankBytes) (hr : r ∈ runes data) :
    isBlank r = false := by
  refine Bool.eq_false_iff.2 fun hblank => ?_
  obtain ⟨b, hb, hpoint⟩ := isBlank_iff.1 hblank
  have hmem : ascii b ∈ decode data := List.mem_flatMap.2 ⟨r, hr, by simp [Rune.text, hpoint]⟩
  exact h b ((isAscii_of_mem_blankBytes hb).mem_decode_iff.1 hmem) hb

/-! ### Tokens -/

theorem token_append (h : ∀ r ∈ rs, isBlank r = false) : token (rs ++ rs') = rs ++ token rs' :=
  List.takeWhile_append_of_pos fun r hr => by rw [h r hr]; rfl

theorem fresh_of_blank (h : ∀ b ∈ back.head?, b ∈ blankBytes) : Fresh back := fun b hb =>
  (isAscii_of_mem_blankBytes (h b hb)).not_isContinuation

theorem token_of_blank (h : ∀ b ∈ back.head?, b ∈ blankBytes) : token (runes back) = [] := by
  cases back with
  | nil => rw [runes_nil]; rfl
  | cons b back =>
    have hb := h b rfl
    have hread := runes_encoded (isAscii_of_mem_blankBytes hb).encodes back
    have hblank : isBlank ⟨some (ascii b), 1⟩ = true := isBlank_iff.2 ⟨b, hb, rfl⟩
    rw [List.singleton_append] at hread
    rw [hread, token, List.takeWhile_cons_of_neg]
    simp [hblank]

/-- Data without blanks are a token, if nothing or a blank stands behind them. -/
theorem token_runes_append (hfront : ∀ b ∈ front, b ∉ blankBytes)
    (hback : ∀ b ∈ back.head?, b ∈ blankBytes) : token (runes (front ++ back)) = runes front := by
  rw [runes_append front (fresh_of_blank hback),
    token_append fun r hr => isBlank_of_mem_runes hfront hr, token_of_blank hback, List.append_nil]

/-! ### The end of a token -/

theorem take_tokenEnd (line : Bytes) (start : Nat) :
    (line.take (tokenEnd line start)).drop start =
      (line.drop start).takeWhile fun b => !blankBytes.contains b := by
  have hle : (line.drop start).findIdx blankBytes.contains ≤ (line.drop start).length :=
    List.findIdx_le_length
  rw [List.length_drop] at hle
  have hstop : tokenEnd line start - start = (line.drop start).findIdx blankBytes.contains := by
    unfold tokenEnd
    omega
  rw [List.drop_take, hstop, List.takeWhile_eq_take_findIdx_not]
  simp only [Bool.not_not]

theorem not_blank_of_mem (h : b ∈ (line.take (tokenEnd line start)).drop start) :
    b ∉ blankBytes := by
  rw [take_tokenEnd] at h
  simpa using List.mem_takeWhile_imp h

theorem tokenEnd_le (line : Bytes) (start : Nat) : tokenEnd line start ≤ line.length :=
  Nat.min_le_left ..

theorem le_tokenEnd (h : start ≤ line.length) : start ≤ tokenEnd line start :=
  Nat.le_min.2 ⟨h, Nat.le_add_right ..⟩

theorem token_drop (line : Bytes) (start : Nat) :
    token (runes (line.drop start)) = runes ((line.take (tokenEnd line start)).drop start) := by
  let inside : UInt8 → Bool := fun b => !blankBytes.contains b
  have hfront : ∀ b ∈ (line.drop start).takeWhile inside, b ∉ blankBytes := by
    rw [← take_tokenEnd]
    exact fun b => not_blank_of_mem
  have hback : ∀ b ∈ ((line.drop start).dropWhile inside).head?, b ∈ blankBytes := by
    intro b hb
    have hstop := List.head?_dropWhile_not inside (line.drop start)
    rw [hb] at hstop
    simpa [inside] using hstop
  have hsplit : (line.drop start).takeWhile inside ++ (line.drop start).dropWhile inside =
      line.drop start := List.takeWhile_append_dropWhile
  calc token (runes (line.drop start))
      = token (runes ((line.drop start).takeWhile inside ++
        (line.drop start).dropWhile inside)) := by
        rw [hsplit]
    _ = runes ((line.drop start).takeWhile inside) := token_runes_append hfront hback
    _ = runes ((line.take (tokenEnd line start)).drop start) := by rw [take_tokenEnd]

/-! ### Markers -/

theorem atOffset_congr {line' : Bytes} (hbefore : line.take start = line'.take start)
    (htoken : token (runes (line.drop start)) = token (runes (line'.drop start))) :
    atOffset m width glyphs line start = atOffset m width glyphs line' start := by
  simp only [atOffset, hbefore, htoken]

/-- What stands behind the end of the token does not matter, if it is nothing or starts with a
blank. -/
theorem atOffset_take_tokenEnd (h : start ≤ line.length)
    (hback : ∀ b ∈ back.head?, b ∈ blankBytes) :
    atOffset m width glyphs (line.take (tokenEnd line start) ++ back) start =
      atOffset m width glyphs line start := by
  have hle := le_tokenEnd h
  have hlen : (line.take (tokenEnd line start)).length = tokenEnd line start :=
    List.length_take_of_le (tokenEnd_le line start)
  refine atOffset_congr ?_ ?_
  · rw [List.take_append_of_le_length (by omega), List.take_take, Nat.min_eq_left hle]
  · rw [List.drop_append_of_le_length (by omega),
      token_runes_append (fun b => not_blank_of_mem) hback, token_drop]

/-- Without a token, spaces and caret are all that has to be put together. -/
theorem draws_zero {gap : Int} (hspaces : m.Repeatable gap " ")
    (hfront : m.Joinable (Text.spaces gap.toNat) glyphs.caret) : Draws m glyphs gap 0 :=
  ⟨hspaces, hfront, ⟨by decide, fun h => absurd h (by decide)⟩, fun _ h => absurd rfl h⟩

/-- In front of a blank, at the end of the line and behind it, there is only the caret. -/
theorem atColumn_of_blank (hblank : ∀ b ∈ (line.drop start).head?, b ∈ blankBytes)
    (hspaces : m.Repeatable (ofBytes width (line.take start)) " ")
    (hfront : m.Joinable (Text.spaces (ofBytes width (line.take start)).toNat) glyphs.caret) :
    atColumn m width glyphs line ((start : Int) + 1) =
      .ok (Text.spaces (ofBytes width (line.take start)).toNat ++ glyphs.caret) := by
  have hmarks := marks_atColumn m width glyphs line start
  rw [token_of_blank hblank] at hmarks
  have hdrawn := hmarks.drawn (draws_zero hspaces hfront)
  rwa [mark, show Text.times (ofRunes width [] - 1).toNat glyphs.filler = [] from rfl,
    List.append_nil] at hdrawn

/-- The marker under a column is drawn from the bytes in front of the column and from those up to
the first blank byte or the end of the line, as far as the machine can put it together. What stands
behind these bytes does not matter, and a column without a token has the caret alone. -/
theorem atColumn_on_bytes (m : Machine) (width : Width) (glyphs : Glyphs) (line : Bytes)
    {column : Int} (hcolumn : 1 ≤ column) :
    let start := (column - 1).toNat
    let stop := tokenEnd line start
    Marks m glyphs (ofBytes width (line.take start)) (ofBytes width ((line.take stop).drop start))
        (atColumn m width glyphs line column) ∧
      (∀ back : Bytes, start ≤ line.length → (∀ b ∈ back.head?, b ∈ blankBytes) →
        atColumn m width glyphs (line.take stop ++ back) column =
          atColumn m width glyphs line column) ∧
      ((∀ b ∈ (line.drop start).head?, b ∈ blankBytes) →
        m.Repeatable (ofBytes width (line.take start)) " " →
        m.Joinable (Text.spaces (ofBytes width (line.take start)).toNat) glyphs.caret →
        atColumn m width glyphs line column =
          .ok (Text.spaces (ofBytes width (line.take start)).toNat ++ glyphs.caret)) := by
  obtain ⟨start, rfl⟩ : ∃ start : Nat, column = start + 1 := ⟨(column - 1).toNat, by omega⟩
  simp only [Int.add_sub_cancel, Int.toNat_natCast]
  refine ⟨?_, fun back h hback => ?_, atColumn_of_blank⟩
  · have hmarks := marks_atColumn m width glyphs line start
    rwa [token_drop] at hmarks
  · rw [atColumn_add_one, atColumn_add_one, atOffset_take_tokenEnd h hback]

/-- A token that ends in a sequence without its end; behind the blank, a byte that would end it. -/
theorem atColumn_on_bytes_truncated :
    atColumn .usual (display tabled) {} [0x61, 0xE6, 0x97, 0x20, 0xA5] 2 = .ok " ^~" ∧
      atColumn .usual (display tabled) {} [0x61, 0xE6, 0x97, 0x0A] 2 = .ok " ^~" := by
  let line : Bytes := [0x61, 0xE6, 0x97, 0x20, 0xA5]
  have hcolumn : (1 : Int) ≤ 2 := by decide
  obtain ⟨hmarks, hback, -⟩ := atColumn_on_bytes .usual (display tabled) {} line hcolumn
  have hstop : tokenEnd line (2 - 1 : Int).toNat = 3 := by decide
  rw [hstop] at hmarks hback
  have hgap : ofBytes (display tabled) (line.take 1) = 1 := by
    have htext : decode [0x61] = "a" := by cbv
    rw [show line.take 1 = [0x61] from rfl, ofBytes_eq_ofText, htext]
    decide +kernel
  have hcells : ofBytes (display tabled) ((line.take 3).drop 1) = 2 := by
    have htext : decode [0xE6, 0x97] = "��" := by cbv
    rw [show (line.take 3).drop 1 = [0xE6, 0x97] from rfl, ofBytes_eq_ofText, htext]
    decide +kernel
  rw [show (2 - 1 : Int).toNat = 1 from rfl, hgap, hcells] at hmarks
  have hroom : Machine.usual.HasRoom 4 := Machine.hasRoom_usual (by decide)
  have hdrawn : atColumn .usual (display tabled) {} line 2 = .ok " ^~" :=
    hmarks.drawn (draws_of_hasRoom hroom (g := 1) (k := 2) (by decide) (by decide) (by decide)
      (by decide) (by decide) (by decide))
  exact ⟨hdrawn, (hback [0x0A] (by decide) (by simp [blankBytes])).trans hdrawn⟩

/-- Not every marker is drawn, on no machine: the number of fillers can be too low for a repetition.
And the spaces can be too many for the memory of a machine. -/
theorem not_forall_atColumn_drawn :
    (∀ m : Machine, ¬ ∀ (width : Width) (glyphs : Glyphs) (line : Bytes) (column : Int),
      1 ≤ column → atColumn m width glyphs line column =
        .ok (Text.spaces (ofBytes width (line.take (column - 1).toNat)).toNat ++ glyphs.caret ++
          Text.times (ofBytes width ((line.take (tokenEnd line (column - 1).toNat)).drop
            (column - 1).toNat) - 1).toNat glyphs.filler)) ∧
      atColumn .usual (fun _ => 0x4000000000000000) {} [0x61] 2 = .error (.text .memory) := by
  refine ⟨fun m hall => ?_, ?_⟩
  · let width : Width := fun o => if o = some (.ofChar 'a') then -2 ^ 63 - 1 else 1
    have hdrawn := hall width {} [0x61] 1 (by decide)
    have hread : runes [0x61] = [⟨some 'a', 1⟩] := by cbv
    have hfillers : ¬ m.Repeatable (fillers (ofRunes width (token (runes [0x61])))) "~" := by
      rw [hread]
      intro h
      exact absurd h.count (by decide +kernel)
    obtain ⟨f, hf, -⟩ := (marks_atColumn m width {} [0x61] 0).undrawn fun h => hfillers h.fillers
    rw [Int.natCast_zero, Int.zero_add] at hf
    rw [hf] at hdrawn
    cases hdrawn
  · have htwo : (2 : Int) = (1 : Nat) + 1 := rfl
    rw [htwo, atColumn_add_one, atOffset_usual_wide]
    rfl

end CaretReport.Marker
