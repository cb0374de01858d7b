import CaretReport.Proofs.Stream.Limit
import Mathlib.Data.List.TakeDrop

/-!
# What an unused stream becomes

Between two reports, a stream is what the texts offered to it so far have made of it. `Since` keeps
those texts as a history beside the stream: they arrived up to the limit, and a stream that a text
did not reach has been tried once more than it took texts. `Since.offered` extends the history.
-/

namespace CaretReport.Stream

/-- Nothing was written to the stream yet. -/
structure Unused (s : Stream) : Prop where
  attempts : s.attempts = 0
  written : s.written = []

/-- The stream `s` comes from `s₀`, to which the texts `ts` were offered. -/
structure Since (s₀ : Stream) (ts : List Text) (s : Stream) : Prop where
  same : s = { s₀ with attempts := s.attempts, written := s.written }
  written : s.written = upTo s₀.limit ts
  all : (∀ n, s₀.limit = some n → ts.length ≤ n) → s.attempts = ts.length
  cut : ∀ n, s₀.limit = some n → n < ts.length → n < s.attempts

variable {s s₀ : Stream} {ts us vs : List Text} {o : Option Nat} {n : Nat}

theorem upTo_eq_self_iff : upTo o ts = ts ↔ ∀ n, o = some n → ts.length ≤ n := by
  cases o <;> simp [upTo]

theorem upTo_append (o : Option Nat) (ts us : List Text) :
    upTo o (ts ++ us) = upTo o ts ++ upTo (o.map (· - ts.length)) us := by
  cases o with
  | none => rfl
  | some n => exact List.take_append

theorem length_upTo_some (n : Nat) (ts : List Text) : (upTo (some n) ts).length = min n ts.length :=
  List.length_take

theorem offered_congr (hlen : us.length = vs.length) (htaken : s.taken us = s.taken vs) :
    s.offered us = s.offered vs := by
  rw [offered, offered, hlen, htaken]

theorem taken_eq_self_congr (hlen : us.length = vs.length) :
    s.taken us = us ↔ s.taken vs = vs := by
  rw [taken, taken, upTo_eq_self_iff, upTo_eq_self_iff, hlen]

theorem since_nil (h : s₀.Unused) : Since s₀ [] s₀ := by
  have hnil : upTo s₀.limit [] = [] := by rw [upTo_eq_self_iff]; simp
  exact ⟨rfl, h.written.trans hnil.symm, fun _ => h.attempts, fun n _ hn => absurd hn n.not_lt_zero⟩

namespace Since

theorem limit_eq (h : Since s₀ ts s) : s.limit = s₀.limit := by
  rw [h.same]; rfl

theorem terminal_eq (h : Since s₀ ts s) : s.terminal = s₀.terminal := by
  rw [h.same]

theorem tolerable (h : Since s₀ ts s) (hs : s₀.Tolerable) : s.Tolerable := by
  rw [h.same]
  exact ⟨hs.terminal, hs.fault⟩

theorem attempts_of_le (h : Since s₀ ts s) (hn : s₀.limit = some n) (hle : ts.length ≤ n) :
    s.attempts = ts.length := by
  refine h.all fun m hm => ?_
  rw [hn] at hm
  cases hm
  exact hle

/-- The stream takes as many texts more as are missing to its limit. -/
theorem taken_eq (h : Since s₀ ts s) (us : List Text) :
    s.taken us = upTo (s₀.limit.map (· - ts.length)) us := by
  rw [taken, h.limit_eq]
  rcases hlim : s₀.limit with _ | n
  · rfl
  -- a stream that failed has been tried more often than it takes texts, and so has nothing left
  have hrest : n - s.attempts = n - ts.length := by
    rcases Nat.lt_or_ge n ts.length with hlt | hle
    · have hcut := h.cut n hlim hlt
      omega
    · rw [h.attempts_of_le hlim hle]
  simp only [Option.map_some, hrest]

theorem offered (h : Since s₀ ts s) (us : List Text) : Since s₀ (ts ++ us) (s.offered us) := by
  have hattempts : (s.offered us).attempts =
      s.attempts + min us.length ((s.taken us).length + 1) := rfl
  refine ⟨?_, ?_, fun hall => ?_, fun n hn hcut => ?_⟩
  · rw [Stream.offered, h.same]
  · rw [upTo_append, ← h.taken_eq, ← h.written]
    rfl
  · have htaken : s.taken us = us := by
      rw [h.taken_eq, upTo_eq_self_iff]
      intro m hm
      obtain ⟨n, hn, rfl⟩ := Option.map_eq_some_iff.1 hm
      have hle := hall n hn
      rw [List.length_append] at hle
      omega
    have hbefore : s.attempts = ts.length := h.all fun n hn => by
      have hle := hall n hn
      rw [List.length_append] at hle
      omega
    rw [hattempts, htaken, hbefore, List.length_append]
    omega
  · rw [List.length_append] at hcut
    rw [hattempts, h.taken_eq, hn, Option.map_some, length_upTo_some]
    rcases Nat.lt_or_ge n ts.length with hlt | hle
    · have hbefore := h.cut n hn hlt
      omega
    · have hbefore := h.attempts_of_le hn hle
      omega

theorem attempts_eq_of_all (h : Since s₀ ts s) (hall : upTo s₀.limit ts = ts) :
    s.attempts = s.written.length := by
  rw [h.written, hall]
  exact h.all (upTo_eq_self_iff.1 hall)

/-- A stream that failed takes nothing more, and the first text offered is tried in vain. -/
theorem attempts_of_failed (h : Since s₀ ts s) (hfail : s.written.length < s.attempts)
    (hus : us ≠ []) : (s.offered us).attempts = s.attempts + 1 := by
  have hcut : upTo s₀.limit ts ≠ ts := fun hall => by
    have heq := h.attempts_eq_of_all hall
    omega
  rw [Ne, upTo_eq_self_iff, not_forall] at hcut
  obtain ⟨n, hcut⟩ := hcut
  obtain ⟨hn, hlt⟩ := Classical.not_imp.1 hcut
  have hpos := List.length_pos_iff.2 hus
  have htaken : s.taken us = [] := by
    rw [h.taken_eq, hn, Option.map_some, Nat.sub_eq_zero_of_le (Nat.le_of_not_le hlt)]
    rfl
  simp only [Stream.offered, htaken, List.length_nil]
  omega

end Since

end CaretReport.Stream
