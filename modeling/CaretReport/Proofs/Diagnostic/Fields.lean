import CaretReport.Diagnostic.Basic
import CaretReport.Proofs.Host.Machine
import Mathlib.Data.List.Basic

/-!
# Fields from the text of a diagnostic

A diagnostic has a text exactly if both its numbers can be written (`Diagnostic.toText_eq_ok_iff`);
otherwise writing the text raises what writing the first of the others raises.

Path and position are read off the text of a diagnostic from the left, where they end at a colon
each; the kind is read off from the right, where it starts behind the last ` [`. The message is what
is left, whatever it looks like. So a diagnostic with an ordinary path and kind is determined by its
text: `Diagnostic.toText_eq_iff`.
-/

namespace CaretReport

namespace CodePoint

theorem ofChar_injective : Function.Injective ofChar := fun _ _ h =>
  Char.toNat_inj.1 (congrArg val h)

def colon : CodePoint := ':'

end CodePoint

namespace Text

/-- What stands in front of the kind of a diagnostic. -/
def opening : Text := " ["

variable {a b s t m n k l : Text}

/-! ### Numbers -/

theorem ofNat_injective : Function.Injective ofNat := by
  intro i j h
  have hdigits : Nat.toDigits 10 i = Nat.toDigits 10 j :=
    List.map_injective_iff.2 CodePoint.ofChar_injective h
  calc i = Nat.ofDigitChars 10 (Nat.toDigits 10 i) 0 := Nat.ofDigitChars_ten_toDigits.symm
    _ = Nat.ofDigitChars 10 (Nat.toDigits 10 j) 0 := by rw [hdigits]
    _ = j := Nat.ofDigitChars_ten_toDigits

theorem colon_not_mem_ofNat (n : Nat) : CodePoint.colon ∉ ofNat n := by
  intro h
  obtain ⟨-, hhigh⟩ := val_of_mem_ofNat h
  exact absurd hhigh (by decide)

/-! ### From the left -/

theorem takeWhile_append_colon (ha : CodePoint.colon ∉ a) (s : Text) :
    (a ++ ":" ++ s).takeWhile (· ≠ .colon) = a := by
  have hall : ∀ c ∈ a, decide (c ≠ .colon) = true := fun c hc =>
    decide_eq_true fun heq => ha (heq ▸ hc)
  have hcolon : (":" : Text) ++ s = .colon :: s := rfl
  rw [List.append_assoc, List.takeWhile_append_of_pos hall, hcolon,
    List.takeWhile_cons_of_neg (by simp), List.append_nil]

theorem append_colon_inj (ha : CodePoint.colon ∉ a) (hb : CodePoint.colon ∉ b)
    (h : a ++ ":" ++ s = b ++ ":" ++ t) : a = b ∧ s = t := by
  have hfront : a = b := by
    rw [← takeWhile_append_colon ha s, h, takeWhile_append_colon hb t]
  rw [hfront] at h
  exact ⟨hfront, List.append_cancel_left h⟩

theorem ofNat_colon_inj {i j : Nat} (h : ofNat i ++ ":" ++ s = ofNat j ++ ":" ++ t) :
    i = j ∧ s = t := by
  obtain ⟨hdigits, hrest⟩ := append_colon_inj (colon_not_mem_ofNat i) (colon_not_mem_ofNat j) h
  exact ⟨ofNat_injective hdigits, hrest⟩

/-! ### From the right -/

/-- The opening in front of a text without one is the last: no other starts behind it. -/
theorem eq_nil_of_opening (hk : ¬ opening <:+: k) (h : opening ++ k = a ++ opening ++ l) :
    a = [] := by
  match a with
  | [] => rfl
  | [c] =>
    -- the other opening would start with the bracket of the first
    obtain ⟨-, hrest⟩ := List.cons.inj h
    obtain ⟨hbracket, -⟩ := List.cons.inj hrest
    exact absurd hbracket (by decide)
  | c :: d :: rest =>
    obtain ⟨-, hrest⟩ := List.cons.inj h
    obtain ⟨-, hrest⟩ := List.cons.inj hrest
    exact absurd ⟨rest, l, hrest.symm⟩ hk

theorem append_opening_inj (hk : ¬ opening <:+: k) (hl : ¬ opening <:+: l)
    (h : m ++ opening ++ k = n ++ opening ++ l) : m = n ∧ k = l := by
  have hsame : m = n := by
    rw [List.append_assoc, List.append_assoc] at h
    rcases List.append_eq_append_iff.1 h with ⟨a, rfl, ha⟩ | ⟨a, rfl, ha⟩
    · rw [← List.append_assoc] at ha
      rw [eq_nil_of_opening hk ha, List.append_nil]
    · rw [← List.append_assoc] at ha
      rw [eq_nil_of_opening hl ha, List.append_nil]
  rw [hsame] at h
  exact ⟨hsame, List.append_cancel_left h⟩

end Text

namespace Diagnostic

open Text

/-- Both numbers of the diagnostic can be written. -/
def Writable (m : Machine) (d : Diagnostic) : Prop :=
  m.Writes d.position.line ∧ m.Writes d.position.column

/-- The text of the diagnostic, if its numbers can be written. -/
def plain (d : Diagnostic) : Text :=
  d.path ++ ":" ++ Text.ofNat d.position.line ++ ":" ++ Text.ofNat d.position.column ++ ": " ++
    d.message ++ " [" ++ d.kind ++ "]"

/-- The path has no colons, and the kind nothing that could stand in front of it. -/
structure Ordinary (d : Diagnostic) : Prop where
  path : CodePoint.colon ∉ d.path
  kind : ¬ opening <:+: d.kind

variable {m : Machine} {d e : Diagnostic} {t : Text} {x : Raised}

/-! ### When there is a text -/

theorem toText_of_writable (h : d.Writable m) : d.toText m = .ok d.plain := by
  simp only [toText, Machine.decimal_of_writes h.1, Machine.decimal_of_writes h.2, bind,
    Except.bind, pure, Except.pure, plain]

theorem toText_of_not_writable (h : ¬ d.Writable m) :
    ∃ limit, d.toText m = .error (.tooManyDigits limit) := by
  by_cases hline : m.Writes d.position.line
  · have hcolumn : ¬ m.Writes d.position.column := fun hcolumn => h ⟨hline, hcolumn⟩
    obtain ⟨limit, hlimit⟩ := Machine.decimal_of_not_writes hcolumn
    refine ⟨limit, ?_⟩
    simp only [toText, Machine.decimal_of_writes hline, hlimit, bind, Except.bind]
  · obtain ⟨limit, hlimit⟩ := Machine.decimal_of_not_writes hline
    refine ⟨limit, ?_⟩
    simp only [toText, hlimit, bind, Except.bind]

theorem toText_eq_ok_iff : d.toText m = .ok t ↔ d.Writable m ∧ t = d.plain := by
  by_cases h : d.Writable m
  · rw [toText_of_writable h]
    exact ⟨fun ht => by cases ht; exact ⟨h, rfl⟩, fun ht => by rw [ht.2]⟩
  · obtain ⟨limit, hlimit⟩ := toText_of_not_writable h
    rw [hlimit]
    exact ⟨fun ht => by (cases ht), fun ht => absurd ht.1 h⟩

theorem raised_eq_ok_iff : Raised.of m d = .ok x ↔ d.Writable m ∧ x = ⟨d, d.plain⟩ := by
  by_cases h : d.Writable m
  · rw [Raised.of, toText_of_writable h]
    exact ⟨fun hx => by cases hx; exact ⟨h, rfl⟩, fun hx => by rw [hx.2]; rfl⟩
  · obtain ⟨limit, hlimit⟩ := toText_of_not_writable h
    rw [Raised.of, hlimit]
    exact ⟨fun hx => by (cases hx), fun hx => absurd hx.1 h⟩

/-! ### Fields -/

theorem plain_eq (d : Diagnostic) :
    d.plain = d.path ++ ":" ++ (ofNat d.position.line ++ ":" ++ (ofNat d.position.column ++ ":" ++
      (" " ++ (d.message ++ opening ++ d.kind ++ "]")))) := by
  have hend : (": " : Text) = ":" ++ " " := rfl
  simp only [plain, opening, hend, List.append_assoc]

theorem eq_of_plain_eq (hd : d.Ordinary) (he : e.Ordinary) (h : d.plain = e.plain) : d = e := by
  rw [plain_eq, plain_eq] at h
  obtain ⟨hpath, h⟩ := append_colon_inj hd.path he.path h
  obtain ⟨hline, h⟩ := ofNat_colon_inj h
  obtain ⟨hcolumn, h⟩ := ofNat_colon_inj h
  have hbody := List.append_cancel_right (List.append_cancel_left h)
  obtain ⟨hmessage, hkind⟩ := append_opening_inj hd.kind he.kind hbody
  obtain ⟨message, path, ⟨line, column, hlpos, hcpos⟩, kind⟩ := d
  cases hpath
  cases hline
  cases hcolumn
  cases hmessage
  cases hkind
  rfl

/-- Two diagnostics with ordinary paths and kinds have the same text only if all their fields are
the same; so have the errors that they are raised as. The texts may have been written on two
machines. -/
theorem toText_eq_iff (m m' : Machine) (hd : d.Ordinary) (he : e.Ordinary) :
    (∀ t u, d.toText m = .ok t → e.toText m' = .ok u → (t = u ↔ d = e)) ∧
      ∀ x y, Raised.of m d = .ok x → Raised.of m' e = .ok y → (x.message = y.message ↔ d = e) := by
  have hiff : d.plain = e.plain ↔ d = e := ⟨eq_of_plain_eq hd he, congrArg plain⟩
  refine ⟨fun t u ht hu => ?_, fun x y hx hy => ?_⟩
  · obtain ⟨-, rfl⟩ := toText_eq_ok_iff.1 ht
    obtain ⟨-, rfl⟩ := toText_eq_ok_iff.1 hu
    exact hiff
  · obtain ⟨-, rfl⟩ := raised_eq_ok_iff.1 hx
    obtain ⟨-, rfl⟩ := raised_eq_ok_iff.1 hy
    exact hiff

/-- The message looks like a position with a message and a kind, and one kind starts with a
bracket. -/
theorem toText_eq_iff_imitation :
    let d : Diagnostic := ⟨"3:4: m [k]", "a.yml", ⟨1, 2, by decide, by decide⟩, "[k"⟩
    let e : Diagnostic := ⟨"3:4: m [k] [", "a.yml", ⟨1, 2, by decide, by decide⟩, "k"⟩
    ∃ t u, d.toText .usual = .ok t ∧ e.toText .usual = .ok u ∧ t ≠ u ∧
      ∃ x y, Raised.of .usual d = .ok x ∧ Raised.of .usual e = .ok y ∧ x.message ≠ y.message := by
  intro d e
  have hd : d.Ordinary := ⟨by decide, by decide⟩
  have he : e.Ordinary := ⟨by decide, by decide⟩
  have hne : d ≠ e := by decide
  have hone : Machine.usual.Writes 1 := Machine.writes_of_lt (by decide)
  have htwo : Machine.usual.Writes 2 := Machine.writes_of_lt (by decide)
  have hdtext := toText_of_writable (m := .usual) (d := d) ⟨hone, htwo⟩
  have hetext := toText_of_writable (m := .usual) (d := e) ⟨hone, htwo⟩
  have hdraised := raised_eq_ok_iff.2 ⟨(⟨hone, htwo⟩ : d.Writable .usual), rfl⟩
  have heraised := raised_eq_ok_iff.2 ⟨(⟨hone, htwo⟩ : e.Writable .usual), rfl⟩
  obtain ⟨htext, hraised⟩ := toText_eq_iff .usual .usual hd he
  exact ⟨_, _, hdtext, hetext, mt (htext _ _ hdtext hetext).1 hne, _, _, hdraised, heraised,
    mt (hraised _ _ hdraised heraised).1 hne⟩

-- a path with colons is not told from a message
example : plain ⟨"b:3:4: m", "a", ⟨1, 2, by decide, by decide⟩, "k"⟩ =
    plain ⟨"m", "a:1:2: b", ⟨3, 4, by decide, by decide⟩, "k"⟩ := by decide

end Diagnostic

end CaretReport
