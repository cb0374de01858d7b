import CaretReport.Stream.Basic
import Mathlib.Data.List.Basic

/-!
# Writes up to the first failure

`Stream.limit` is the number of writes that a stream takes over its life. Texts written in a row
arrive up to the limit, the write behind it is tried in vain, and the others are not tried any more:
`writeAll_snd` gives the stream behind the writes, `writeAll_eq_ok_iff` tells whether all arrived.
-/

namespace CaretReport.Stream

/-- How many writes the stream takes over its life, if it fails at all. -/
def limit (s : Stream) : Option Nat := if s.closed then some 0 else s.failsAt.map (· - 1)

/-- The texts up to a limit. -/
def upTo : Option Nat → List Text → List Text
  | none, ts => ts
  | some n, ts => ts.take n

/-- The texts that arrive if they are written next. -/
def taken (s : Stream) (ts : List Text) : List Text := upTo (s.limit.map (· - s.attempts)) ts

/-- The stream behind the texts, if they are written up to the first failure. -/
def offered (s : Stream) (ts : List Text) : Stream :=
  { s with
    attempts := s.attempts + min ts.length ((s.taken ts).length + 1)
    written := s.written ++ s.taken ts }

/-- The stream takes every write. -/
def Sound (s : Stream) : Prop := s.limit = none

/-- Its troubles are of the kinds that reporting lives with. -/
structure Tolerable (s : Stream) : Prop where
  terminal : ∀ e, s.terminal = .trouble e → e.isTolerated = true
  fault : s.failsAt ≠ none → s.fault.isTolerated = true

variable {s : Stream} {t : Text} {ts us : List Text} {f : Exception}

/-! ### One write -/

theorem refusal?_eq_none_iff : s.refusal? = none ↔ ∀ n, s.limit = some n → s.attempts < n := by
  obtain ⟨terminal, failsAt, fault, closed, attempts, written⟩ := s
  cases closed with
  | true => simp [refusal?, limit]
  | false =>
    cases failsAt with
    | none => simp [refusal?, limit]
    | some n => simp [refusal?, limit]; omega

theorem isTolerated_of_refusal (hs : s.Tolerable) (h : s.refusal? = some f) :
    f.isTolerated = true := by
  unfold refusal? at h
  split at h
  · cases h; rfl
  · split at h
    · next n hn =>
      split at h
      · cases h; exact hs.fault (by rw [hn]; exact Option.some_ne_none n)
      · cases h
    · cases h

theorem write_of_refusal (h : s.refusal? = some f) :
    s.write t = (.error f, { s with attempts := s.attempts + 1 }) := by
  simp only [write, h]

theorem write_of_none (h : s.refusal? = none) :
    s.write t = (.ok (), { s with attempts := s.attempts + 1, written := s.written ++ [t] }) := by
  simp only [write, h]

theorem taken_nil : s.taken [] = [] := by
  unfold taken upTo; split <;> simp

theorem taken_cons_of_refusal (h : s.refusal? = some f) : s.taken (t :: ts) = [] := by
  have hlim : ¬ s.refusal? = none := by rw [h]; exact Option.some_ne_none f
  rw [refusal?_eq_none_iff, not_forall] at hlim
  obtain ⟨n, hlim⟩ := hlim
  obtain ⟨hn, hle⟩ := Classical.not_imp.1 hlim
  simp [taken, upTo, hn, Nat.sub_eq_zero_of_le (Nat.le_of_not_lt hle)]

theorem taken_cons_of_none (h : s.refusal? = none) :
    s.taken (t :: ts) =
      t :: taken { s with attempts := s.attempts + 1, written := s.written ++ [t] } ts := by
  have hlim := refusal?_eq_none_iff.1 h
  have hsame : limit { s with attempts := s.attempts + 1, written := s.written ++ [t] } = s.limit :=
    rfl
  unfold taken
  rw [hsame]
  rcases hn : s.limit with _ | n
  · rfl
  · have hlt := hlim n hn
    obtain ⟨m, hm⟩ : ∃ m, n - s.attempts = m + 1 := ⟨n - s.attempts - 1, by omega⟩
    have hm' : n - (s.attempts + 1) = m := by omega
    simp [upTo, hm, hm']

/-! ### Writes in a row -/

theorem writeAll_nil : s.writeAll [] = (.ok (), s) := rfl

theorem writeAll_of_refusal (h : s.refusal? = some f) :
    s.writeAll (t :: ts) = (.error f, { s with attempts := s.attempts + 1 }) := by
  rw [writeAll, write_of_refusal h]

theorem writeAll_of_none (h : s.refusal? = none) :
    s.writeAll (t :: ts) =
      writeAll { s with attempts := s.attempts + 1, written := s.written ++ [t] } ts := by
  rw [writeAll, write_of_none h]

theorem writeAll_snd (s : Stream) (ts : List Text) : (s.writeAll ts).2 = s.offered ts := by
  induction ts generalizing s with
  | nil => simp [writeAll_nil, offered, taken_nil]
  | cons t ts ih =>
    rcases h : s.refusal? with _ | f
    · rw [writeAll_of_none h, ih]
      simp only [offered, taken_cons_of_none h, List.length_cons, List.append_assoc,
        List.singleton_append, Nat.add_min_add_right]
      congr 1
      omega
    · rw [writeAll_of_refusal h]
      simp [offered, taken_cons_of_refusal h]

theorem writeAll_eq_ok_iff : (s.writeAll ts).1 = .ok () ↔ s.taken ts = ts := by
  induction ts generalizing s with
  | nil => simp [writeAll_nil, taken_nil]
  | cons t ts ih =>
    rcases h : s.refusal? with _ | f
    · rw [writeAll_of_none h, taken_cons_of_none h, ih, List.cons_inj_right]
    · rw [writeAll_of_refusal h, taken_cons_of_refusal h]
      simp

/-- The answer of the terminal has no part in writing. -/
theorem writeAll_terminal (s : Stream) (a : Terminal) (ts : List Text) :
    writeAll { s with terminal := a } ts =
      ((s.writeAll ts).1, { (s.writeAll ts).2 with terminal := a }) := by
  induction ts generalizing s with
  | nil => rfl
  | cons t ts ih =>
    have hsame : refusal? { s with terminal := a } = s.refusal? := rfl
    rcases h : s.refusal? with _ | f
    · rw [writeAll_of_none h, ← ih, writeAll_of_none (hsame.trans h)]
    · rw [writeAll_of_refusal h, writeAll_of_refusal (hsame.trans h)]

theorem offered_of_taken (h : s.taken ts = ts) :
    s.offered ts = { s with attempts := s.attempts + ts.length, written := s.written ++ ts } := by
  simp only [offered, h]
  rw [Nat.min_eq_left (Nat.le_succ _)]

/-! ### Refused writes -/

/-- One of the next `n` writes is refused, for the reason `f`. -/
def Refuses (s : Stream) (n : Nat) (f : Exception) : Prop :=
  ∃ k < n, refusal? { s with attempts := s.attempts + k } = some f

/-- None of the next `n` writes is refused. -/
def Takes (s : Stream) (n : Nat) : Prop := ∀ f, ¬ s.Refuses n f

variable {n : Nat} {g : Exception}

/-- A stream that refuses a write refuses all later ones, for the same reason. -/
theorem refusal?_add (h : s.refusal? = some f) (k : Nat) :
    refusal? { s with attempts := s.attempts + k } = some f := by
  obtain ⟨terminal, failsAt, fault, closed, attempts, written⟩ := s
  cases closed with
  | true => exact h
  | false =>
    cases failsAt with
    | none => simp [refusal?] at h
    | some n =>
      simp only [refusal?, Bool.false_eq_true, ↓reduceIte, Option.ite_none_right_eq_some] at h ⊢
      exact ⟨by omega, h.2⟩

theorem refuses_succ_of_refusal (h : s.refusal? = some f) : s.Refuses (n + 1) g ↔ f = g := by
  constructor
  · rintro ⟨k, -, hk⟩
    rw [refusal?_add h] at hk
    exact Option.some.inj hk
  · rintro rfl
    exact ⟨0, n.succ_pos, h⟩

theorem refuses_succ_of_none (h : s.refusal? = none) (t : Text) :
    s.Refuses (n + 1) f ↔
      Refuses { s with attempts := s.attempts + 1, written := s.written ++ [t] } n f := by
  have hplace : ∀ k, s.attempts + (k + 1) = s.attempts + 1 + k := by omega
  constructor
  · rintro ⟨_ | k, hk, hf⟩
    · exact absurd (h.symm.trans hf) nofun
    · rw [hplace] at hf
      exact ⟨k, Nat.lt_of_succ_lt_succ hk, hf⟩
  · rintro ⟨k, hk, hf⟩
    refine ⟨k + 1, Nat.succ_lt_succ hk, ?_⟩
    rw [hplace]
    exact hf

theorem writeAll_eq_error_iff : (s.writeAll ts).1 = .error f ↔ s.Refuses ts.length f := by
  induction ts generalizing s with
  | nil => simp [writeAll_nil, Refuses]
  | cons t ts ih =>
    rcases h : s.refusal? with _ | g
    · rw [writeAll_of_none h, ih, List.length_cons, refuses_succ_of_none h t]
    · rw [writeAll_of_refusal h, List.length_cons, refuses_succ_of_refusal h, Except.error.injEq]

theorem isTolerated_of_writeAll (hs : s.Tolerable) (h : (s.writeAll ts).1 = .error f) :
    f.isTolerated = true := by
  obtain ⟨k, -, hk⟩ := writeAll_eq_error_iff.1 h
  have hs' : Tolerable { s with attempts := s.attempts + k } := ⟨hs.terminal, hs.fault⟩
  exact isTolerated_of_refusal hs' hk

theorem exists_refuses (hs : s.Tolerable) (h : s.taken ts ≠ ts) :
    ∃ f, s.Refuses ts.length f ∧ f.isTolerated = true := by
  rcases hw : (s.writeAll ts).1 with f | ⟨⟩
  · exact ⟨f, writeAll_eq_error_iff.1 hw, isTolerated_of_writeAll hs hw⟩
  · exact absurd (writeAll_eq_ok_iff.1 hw) h

theorem Takes.taken_eq (h : s.Takes ts.length) : s.taken ts = ts := by
  refine writeAll_eq_ok_iff.1 ?_
  rcases hw : (s.writeAll ts).1 with f | ⟨⟩
  · exact absurd (writeAll_eq_error_iff.1 hw) (h f)
  · rfl

/-! ### Streams that take every write -/

theorem Sound.taken_eq (hs : s.Sound) (ts : List Text) : s.taken ts = ts := by
  rw [taken, show s.limit = none from hs]
  rfl

theorem Sound.offered_eq (hs : s.Sound) (ts : List Text) :
    s.offered ts = { s with attempts := s.attempts + ts.length, written := s.written ++ ts } :=
  offered_of_taken (hs.taken_eq ts)

end CaretReport.Stream
