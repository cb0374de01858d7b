import CaretReport.Proofs.Package.Reading

/-!
# Line ends of the files of a package

A text can be kept in a file with carriage returns in front of its line feeds, be it of all or of
some (`Text.Paired`), or in their place (`Text.returned`). Reading unifies both to the text itself,
and whatever is made of a file is made of its unified text, so that no reader tells the spellings
apart (`File.read_respelled`).
-/

namespace CaretReport

namespace Text

/-- The second text is the first with a carriage return in front of some of its line feeds. -/
inductive Paired : Text → Text → Prop
  | nil : Paired [] []
  | same (c : CodePoint) {t u : Text} (h : Paired t u) : Paired (c :: t) (c :: u)
  | pair {t u : Text} (h : Paired t u) :
    Paired (.ofChar '\n' :: t) (.ofChar '\r' :: .ofChar '\n' :: u)

/-- A text with a carriage return in place of each line feed. -/
def returned (t : Text) : Text := t.map fun c : CodePoint => if c = '\n' then .ofChar '\r' else c

variable {t u : Text} {c : CodePoint}

theorem Paired.unified (h : Paired t u) (hreturn : .ofChar '\r' ∉ t) : Unified u t := by
  induction h with
  | nil => exact .nil
  | same c _ ih =>
    rw [List.mem_cons, not_or] at hreturn
    exact .other (Ne.symm hreturn.1) (ih hreturn.2)
  | pair _ ih =>
    rw [List.mem_cons, not_or] at hreturn
    exact .pair (ih hreturn.2)

theorem Paired.mem (h : Paired t u) (hc : c ∈ u) : c ∈ t ∨ c = '\r' := by
  induction h with
  | nil => cases hc
  | same d _ ih =>
    rcases List.mem_cons.1 hc with rfl | hc
    · exact .inl List.mem_cons_self
    · exact (ih hc).imp_left (List.mem_cons_of_mem d)
  | pair _ ih =>
    rcases List.mem_cons.1 hc with rfl | hc
    · exact .inr rfl
    · rcases List.mem_cons.1 hc with rfl | hc
      · exact .inl List.mem_cons_self
      · exact (ih hc).imp_left (List.mem_cons_of_mem _)

theorem returned_feed (t : Text) : returned (.ofChar '\n' :: t) = .ofChar '\r' :: returned t := rfl

theorem returned_of_ne (hc : c ≠ '\n') (t : Text) : returned (c :: t) = c :: returned t := by
  simp only [returned, List.map_cons, hc, ↓reduceIte]

theorem mem_of_mem_returned (hc : c ∈ returned t) : (c ∈ t ∧ c ≠ '\n') ∨ c = '\r' := by
  obtain ⟨d, hd, rfl⟩ := List.mem_map.1 hc
  split
  · exact .inr rfl
  · next hne => exact .inl ⟨hd, hne⟩

theorem feed_not_mem_returned (t : Text) : .ofChar '\n' ∉ returned t := by
  intro h
  rcases mem_of_mem_returned h with ⟨-, hne⟩ | heq
  · exact hne rfl
  · exact absurd heq (by decide)

theorem unified_returned (hreturn : .ofChar '\r' ∉ t) : Unified (returned t) t := by
  induction t with
  | nil => exact .nil
  | cons c t ih =>
    rw [List.mem_cons, not_or] at hreturn
    by_cases hc : c = '\n'
    · subst hc
      rw [returned_feed]
      exact .lone (fun h => feed_not_mem_returned t (List.mem_of_head? h)) (ih hreturn.2)
    · rw [returned_of_ne hc]
      exact .other (Ne.symm hreturn.1) (ih hreturn.2)

/-- The text is spelled with pairs of carriage return and line feed, or with carriage returns. -/
def Respelled (t u : Text) : Prop := Paired t u ∨ u = returned t

theorem Paired.append_left (s : Text) (h : Paired t u) : Paired (s ++ t) (s ++ u) := by
  induction s with
  | nil => exact h
  | cons c s ih => exact .same c ih

theorem Respelled.refl (t : Text) : Respelled t t := by
  have h := Paired.append_left t .nil
  rw [List.append_nil] at h
  exact .inl h

theorem Respelled.unified (h : Respelled t u) (hreturn : .ofChar '\r' ∉ t) : Unified u t := by
  rcases h with h | rfl
  · exact h.unified hreturn
  · exact unified_returned hreturn

theorem Respelled.not_isSurrogate (h : Respelled t u) (ht : ∀ c ∈ t, c.isSurrogate = false) :
    ∀ c ∈ u, c.isSurrogate = false := by
  intro c hc
  have hmem : c ∈ t ∨ c = '\r' := by
    rcases h with h | rfl
    · exact h.mem hc
    · exact (mem_of_mem_returned hc).imp_left And.left
  rcases hmem with hmem | rfl
  · exact ht c hmem
  · decide

end Text

namespace Package.File

open Utf8

variable {t u : Text}

/-- A text without carriage returns is read from its encoding with any line ends: it is the
description, and it gives the version and the requirements that it gives with line feeds. -/
theorem read_respelled (ht : ∀ c ∈ t, c.isSurrogate = false) (hreturn : .ofChar '\r' ∉ t)
    (h : t.Respelled u) :
    (description (.content u.utf8) = .ok t ∧ description (.content t.utf8) = .ok t) ∧
      (∃ v, version (.content u.utf8) = .ok v ∧ version (.content t.utf8) = .ok v) ∧
      ∃ rs, requirements (.content u.utf8) = .ok rs ∧ requirements (.content t.utf8) = .ok rs := by
  have hreads : ∀ {u}, t.Respelled u → Reads u.utf8 t := by
    intro u h
    have hu := h.not_isSurrogate ht
    refine reads_of_unified (wellFormed_utf8 hu) ?_
    rw [decode_utf8 hu]
    exact h.unified hreturn
  have hspelled := hreads h
  have hself := hreads (Text.Respelled.refl t)
  exact ⟨⟨hspelled.description, hself.description⟩, ⟨_, hspelled.version, hself.version⟩,
    ⟨_, hspelled.requirements, hself.requirements⟩⟩

/-- Line ends of all kinds in front of a version, inside of it and between the entries that the same
text has as a file of requirements. -/
theorem read_respelled_mixed :
    let t : Text := "#\n__version__ =\n\n\"1\n2\"\n"
    let mixed : File := .content (Text.utf8 "#\r\n__version__ =\n\r\n\"1\r\n2\"\n")
    let returned : File := .content (Text.utf8 "#\r__version__ =\r\r\"1\r2\"\r")
    let needs : List Text := ["__version__ =", "\"1", "2\""]
    (mixed.description = .ok t ∧ mixed.version = .ok "1\n2" ∧ mixed.requirements = .ok needs) ∧
      (returned.description = .ok t ∧ returned.version = .ok "1\n2" ∧
        returned.requirements = .ok needs) := by
  intro t mixed returned needs
  have hpaired : t.Paired "#\r\n__version__ =\n\r\n\"1\r\n2\"\n" :=
    .append_left "#" (.pair (.append_left "__version__ =\n" (.pair (.append_left "\"1" (.pair
      (.append_left "2\"\n" .nil))))))
  have hreturned : t.Respelled "#\r__version__ =\r\r\"1\r2\"\r" := .inr rfl
  have hversion : version (.content t.utf8) = .ok "1\n2" := rfl
  have hneeds : requirements (.content t.utf8) = .ok needs := rfl
  obtain ⟨⟨hd, -⟩, ⟨v, hv, hvt⟩, rs, hrs, hrst⟩ :=
    read_respelled (by decide) (by decide) (.inl hpaired)
  obtain ⟨⟨he, -⟩, ⟨w, hw, hwt⟩, qs, hqs, hqst⟩ :=
    read_respelled (by decide) (by decide) hreturned
  exact ⟨⟨hd, hv.trans (hvt.symm.trans hversion), hrs.trans (hrst.symm.trans hneeds)⟩,
    he, hw.trans (hwt.symm.trans hversion), hqs.trans (hqst.symm.trans hneeds)⟩

end Package.File

end CaretReport
