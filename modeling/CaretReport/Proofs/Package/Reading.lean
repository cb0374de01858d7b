import CaretReport.Package.Basic
import CaretReport.Proofs.Utf8.Agreement

/-!
# Reading the files of a package

A file of a package is read exactly if lenient reading meets no malformed byte in it, and then as
the text that lenient reading makes of it, with its line ends unified (`File.read_agrees`).
`Unified` says line end by line end what that means.
-/

namespace CaretReport

namespace Text

/-- The second text is the first with a line feed in place of each pair of carriage return and line
feed, and of each carriage return that stands alone. -/
inductive Unified : Text → Text → Prop
  | nil : Unified [] []
  | pair {t u : Text} (h : Unified t u) :
    Unified (.ofChar '\r' :: .ofChar '\n' :: t) (.ofChar '\n' :: u)
  | lone {t u : Text} (hnext : t.head? ≠ some '\n') (h : Unified t u) :
    Unified (.ofChar '\r' :: t) (.ofChar '\n' :: u)
  | other {c : CodePoint} {t u : Text} (hc : c ≠ '\r') (h : Unified t u) : Unified (c :: t) (c :: u)

variable {t u : Text} {c : CodePoint}

theorem unifyNewlines_return (t : Text) :
    unifyNewlines (.ofChar '\r' :: t) = .ofChar '\n' :: unifyFrom true t := rfl

theorem unifyNewlines_other (hc : c ≠ '\r') (t : Text) :
    unifyNewlines (c :: t) = c :: unifyNewlines t := by
  simp [unifyNewlines, unifyFrom, hc]

theorem unifyFrom_feed (t : Text) : unifyFrom true (.ofChar '\n' :: t) = unifyNewlines t := rfl

theorem unifyFrom_of_ne (h : t.head? ≠ some '\n') : unifyFrom true t = unifyNewlines t := by
  cases t with
  | nil => rfl
  | cons c t =>
    have hc : c ≠ '\n' := fun heq => h (congrArg some heq)
    simp [unifyNewlines, unifyFrom, hc]

theorem unified_unifyNewlines : ∀ t : Text, Unified t t.unifyNewlines
  | [] => .nil
  | c :: t => by
    by_cases hc : c = '\r'
    · subst hc
      rw [unifyNewlines_return]
      match t with
      | [] => exact .lone nofun .nil
      | d :: t =>
        by_cases hd : d = '\n'
        · subst hd
          exact .pair (unified_unifyNewlines t)
        · have hnext : (d :: t).head? ≠ some '\n' := fun heq => hd (Option.some.inj heq)
          rw [unifyFrom_of_ne hnext]
          exact .lone hnext (unified_unifyNewlines (d :: t))
    · rw [unifyNewlines_other hc]
      exact .other hc (unified_unifyNewlines t)

theorem unified_iff : Unified t u ↔ u = t.unifyNewlines := by
  refine ⟨fun h => ?_, fun h => h ▸ unified_unifyNewlines t⟩
  induction h with
  | nil => rfl
  | pair _ ih => rw [unifyNewlines_return, unifyFrom_feed, ih]
  | lone hnext _ ih => rw [unifyNewlines_return, unifyFrom_of_ne hnext, ih]
  | other hc _ ih => rw [unifyNewlines_other hc, ih]

end Text

namespace Package.File

open Utf8

variable {data : Bytes} {α : Type}

theorem read_of_not_mem (path : Text) (h : Rune.malformed ∉ runes data) :
    read path (.content data) = .ok (decode data).unifyNewlines := by
  rw [read, Utf8.read_of_not_mem h]

theorem read_of_wellFormed (path : Text) (h : WellFormed data) :
    read path (.content data) = .ok (decode data).unifyNewlines :=
  read_of_not_mem path (List.count_eq_zero.1 (wellFormed_iff_count.1 h))

theorem read_of_mem (path : Text) (h : Rune.malformed ∈ runes data) :
    ∃ e, read path (.content data) = .error (.malformed e) ∧
      e.offset = span ((runes data).takeWhile (· ≠ .malformed)) := by
  obtain ⟨e, he, hoffset⟩ := Utf8.read_of_mem h
  exact ⟨e, by rw [read, he], hoffset⟩

/-- What is made of a file with the text `t`. -/
structure Reads (data : Bytes) (t : Text) : Prop where
  description : description (.content data) = .ok t
  version : version (.content data) = .ok (versionIn t)
  requirements : requirements (.content data) = .ok (entries t)

theorem reads_of_unified {t : Text} (h : WellFormed data) (ht : (decode data).Unified t) :
    Reads data t := by
  have hread : ∀ path, read path (.content data) = .ok t := by
    intro path
    rw [read_of_wellFormed path h, ← Text.unified_iff.1 ht]
  refine ⟨?_, ?_, ?_⟩
  · show id <$> read descriptionPath (.content data) = _
    rw [hread]
    rfl
  · show versionIn <$> read versionPath (.content data) = _
    rw [hread]
    rfl
  · show entries <$> read requirementsPath (.content data) = _
    rw [hread]
    rfl

theorem exists_map_read_iff (path : Text) (use : Text → α) :
    (∃ a, use <$> read path (.content data) = .ok a) ↔ Rune.malformed ∉ runes data := by
  constructor
  · rintro ⟨a, ha⟩ hmem
    obtain ⟨e, he, -⟩ := read_of_mem path hmem
    rw [he] at ha
    cases ha
  · intro h
    rw [read_of_not_mem path h]
    exact ⟨_, rfl⟩

/-- A package with three files describes itself exactly if lenient reading meets no malformed byte
in any of them. -/
theorem exists_metadata_iff (find : List Text → List Text → List Text)
    (source readme needs : Bytes) :
    (∃ d, metadata find (.content source) (.content readme) (.content needs) = .ok d) ↔
      Rune.malformed ∉ runes source ∧ Rune.malformed ∉ runes readme ∧
        Rune.malformed ∉ runes needs := by
  rw [← exists_map_read_iff versionPath versionIn, ← exists_map_read_iff descriptionPath id,
    ← exists_map_read_iff requirementsPath entries]
  constructor
  · rintro ⟨d, hd⟩
    rw [metadata] at hd
    rcases hversion : version (.content source) with f | v
    · rw [hversion] at hd
      cases hd
    rcases hdescription : description (.content readme) with f | t
    · rw [hversion, hdescription] at hd
      cases hd
    rcases hneeds : requirements (.content needs) with f | rs
    · rw [hversion, hdescription, hneeds] at hd
      cases hd
    exact ⟨⟨v, hversion⟩, ⟨t, hdescription⟩, ⟨rs, hneeds⟩⟩
  · rintro ⟨⟨v, hversion⟩, ⟨t, hdescription⟩, ⟨rs, hneeds⟩⟩
    change version (.content source) = .ok v at hversion
    change description (.content readme) = .ok t at hdescription
    change requirements (.content needs) = .ok rs at hneeds
    rw [metadata, hversion, hdescription, hneeds]
    exact ⟨_, rfl⟩

/-- The description of a package is read exactly if lenient reading meets no malformed byte in its
file. It is the text that lenient reading makes of the file, with unified line ends; otherwise the
first malformed byte is the place that the fault names. Requirements and version are read from their
files exactly if the same holds there. -/
theorem read_agrees (data : Bytes) :
    ((∃ t, description (.content data) = .ok t) ↔ Rune.malformed ∉ runes data) ∧
      (∀ t, description (.content data) = .ok t → (decode data).Unified t) ∧
      (∀ f, description (.content data) = .error f → ∃ e, f = .malformed e ∧
        e.offset = span ((runes data).takeWhile (· ≠ .malformed)) ∧
        ∃ front back : Text, f.exception = .of .unicodeDecode
            (front ++ " in position " ++ Text.ofNat e.offset ++ back) ∧
          (("-" : Text) <+: back ∨ (": " : Text) <+: back)) ∧
      ((∃ rs, requirements (.content data) = .ok rs) ↔ Rune.malformed ∉ runes data) ∧
      ((∃ v, version (.content data) = .ok v) ↔ Rune.malformed ∉ runes data) := by
  have hdescription : description (.content data) = id <$> read descriptionPath (.content data) :=
    rfl
  refine ⟨exists_map_read_iff descriptionPath id, fun t ht => ?_, fun f hf => ?_,
    exists_map_read_iff requirementsPath entries, exists_map_read_iff versionPath versionIn⟩
  · have hmem := (exists_map_read_iff descriptionPath id).1 ⟨t, ht⟩
    rw [hdescription, read_of_not_mem descriptionPath hmem] at ht
    exact Text.unified_iff.2 (Except.ok.inj ht).symm
  · have hmem : Rune.malformed ∈ runes data := by
      by_contra h
      rw [hdescription, read_of_not_mem descriptionPath h] at hf
      cases hf
    obtain ⟨e, he, hoffset⟩ := read_of_mem descriptionPath hmem
    rw [hdescription, he] at hf
    cases hf
    obtain ⟨front, back, hmessage, hback⟩ := e.exists_message_eq
    exact ⟨e, rfl, hoffset, front, back, congrArg (Exception.of .unicodeDecode) hmessage, hback⟩

end Package.File

end CaretReport
