import CaretReport.Text.Basic

/-!
# Binary floating-point numbers

Double precision numbers as exact values: a finite one is an integer below `2 ^ 53` times a power
of two. All arithmetic is on natural numbers, so there is one rounding and no other error.

A decimal `n / 10 ^ k` is cut to a number of digits, or of decimal places. What is cut is rounded
to the nearest such decimal, and to the even one of two that are equally near.

The decimals that read back as a given number are those in the interval that rounds to it: its ends
lie halfway to the neighbours, and they count exactly if the number is even. Among them are chosen
those with the fewest digits, and of these the nearest to the number, the even one of two that are
equally near.

A number is written with a fixed number of decimal places, in scientific form, or in the shorter
of both. Exponents have a sign and at least two digits.
-/

namespace CaretReport

namespace Number

/-! ### Decimals -/

/-- `num / den` rounded to an integer: the nearest, and the even one of two that are equally
near. -/
def divEven (num den : Nat) : Nat :=
  let q := num / den
  let r := num % den
  if 2 * r < den then q
  else if den < 2 * r then q + 1
  else q + q % 2

/-- A decimal in scientific form: its digits, with the point behind the first, times a power of
ten. -/
structure Decimal where
  digits : Text
  exponent : Int

def zeros (count : Nat) : Text := List.replicate count '0'

/-- Digits with zeros behind them, `count` in all. -/
def padRight (count : Nat) (digits : Text) : Text := digits ++ zeros (count - digits.length)

/-- `n / 10 ^ k` with at most `count` digits, `count` being positive. -/
def significant (count n k : Nat) : Decimal :=
  let digits := Text.ofNat n
  if n = 0 then ⟨"0", 0⟩
  else
    let e : Int := (digits.length : Int) - 1 - k
    if digits.length ≤ count then ⟨digits, e⟩
    else
      let rounded := divEven n (Nat.pow 10 (digits.length - count))
      if rounded < Nat.pow 10 count then ⟨Text.ofNat rounded, e⟩
      else ⟨Text.ofNat (rounded / 10), e + 1⟩

def Decimal.parts (d : Decimal) : Text × Text :=
  match d.exponent with
  | .ofNat e => (padRight (e + 1) (d.digits.take (e + 1)), d.digits.drop (e + 1))
  | .negSucc e => ("0", zeros e ++ d.digits)

/-- The digits of `n / 10 ^ k` before and behind the point, with `count` digits behind it. -/
def places (count n k : Nat) : Text × Text :=
  let kept := min count k
  let digits := Text.ofNatPadded 10 (kept + 1) (divEven n (Nat.pow 10 (k - kept)))
  let point := digits.length - kept
  (digits.take point, padRight count (digits.drop point))

/-! ### Powers and multiples -/

/-- `base ^ e` as a fraction: what stands above the bar, and what stands below. -/
def powers (base : Nat) (e : Int) : Nat × Nat := (Nat.pow base e.toNat, Nat.pow base (-e).toNat)

/-- Whether `base ^ e ≤ num / den`. -/
def reaches (base : Nat) (e : Int) (num den : Nat) : Bool :=
  let (up, down) := powers base e
  up * den ≤ num * down

def size (base n : Nat) : Nat := (Nat.toDigits base n).length

/-- The greatest `e` with `base ^ e ≤ num / den`, for a positive fraction. The sizes of the two
numbers leave only two candidates. -/
def exponent (base num den : Nat) : Int :=
  let e : Int := size base num - size base den
  if reaches base e num den then e else e - 1

/-- `num / den` as a multiple of `base ^ e`, rounded. -/
def multiple (base : Nat) (e : Int) (num den : Nat) : Nat :=
  let (up, down) := powers base e
  divEven (num * down) (den * up)

end Number

/-! ### Numbers -/

/-- A double precision number. `finite s m q` is `m * 2 ^ q`, negative if `s`. -/
inductive Binary64 where
  | nan
  | infinite (negative : Bool)
  | finite (negative : Bool) (m : Nat) (q : Int)
  deriving DecidableEq

namespace Binary64

/-- The least exponent, that of the subnormal numbers. -/
def minExponent : Int := -1074

def maxExponent : Int := 971

/-- The number nearest to `num / den`, the even one of two that are equally near. -/
def ofRatio (negative : Bool) (num den : Nat) : Binary64 :=
  if num = 0 then .finite negative 0 minExponent
  else
    let q := max (Number.exponent 2 num den - 52) minExponent
    let m := Number.multiple 2 q num den
    let (m, q) := if m < 0x20000000000000 then (m, q) else (0x10000000000000, q + 1)
    if q ≤ maxExponent then .finite negative m q else .infinite negative

def ofInt (i : Int) : Binary64 := ofRatio (i < 0) i.natAbs 1

/-- The value `m * 2 ^ q` as a fraction. -/
def ratio (m : Nat) (q : Int) : Nat × Nat :=
  let (up, down) := Number.powers 2 q
  (m * up, down)

/-- The value `m * 2 ^ q` as a decimal `n / 10 ^ k`. -/
def decimal (m : Nat) (q : Int) : Nat × Nat :=
  match q with
  | .ofNat q => (m * Nat.pow 2 q, 0)
  | .negSucc q => (m * Nat.pow 5 (q + 1), q + 1)

def floor (m : Nat) (q : Int) : Nat :=
  let (num, den) := ratio m q
  num / den

def isNegative : Binary64 → Bool
  | .nan => false
  | .infinite s => s
  | .finite s _ _ => s

end Binary64

namespace Number

/-! ### Shortest decimals -/

/-- Where the numbers that round to a floating-point number end, as multiples of a fourth of its
last place. The neighbour below a power of two is only half as far. -/
def bounds (m : Nat) (q : Int) : Nat × Nat :=
  (if m = 0x10000000000000 ∧ Binary64.minExponent < q then 4 * m - 1 else 4 * m - 2, 4 * m + 2)

/-- Whether `n * 10 ^ e` reads back as `m * 2 ^ q`. -/
def readsBack (m : Nat) (q : Int) (n : Nat) (e : Int) : Bool :=
  let (up, down) := powers 10 e
  let (num, den) := Binary64.ratio 1 (q - 2)
  let (low, high) := bounds m q
  let value := n * up * den
  let low := low * num * down
  let high := high * num * down
  if m % 2 = 0 then low ≤ value && value ≤ high else low < value && value < high

/-- Of the two multiples of `10 ^ e` around `m * 2 ^ q` one that reads back, the nearer if both
do. -/
def candidate? (m : Nat) (q e : Int) : Option Nat :=
  let (num, den) := Binary64.ratio m q
  let (up, down) := powers 10 e
  let below := num * down / (den * up)
  [multiple 10 e num den, below, below + 1].find? fun n => readsBack m q n e

def stripZeros (t : Text) : Text := (t.reverse.dropWhile (· = CodePoint.ofChar '0')).reverse

/-- The shortest decimal that reads back as `m * 2 ^ q`, for positive `m`. Seventeen digits are
always enough. -/
def shortest (m : Nat) (q : Int) : Decimal :=
  let (num, den) := Binary64.ratio m q
  let top := exponent 10 num den
  let found := (List.range 17).findSome? fun i =>
    let e : Int := top - (i : Nat)
    (candidate? m q e).map fun n => (n, e)
  match found with
  | some (n, e) =>
    let digits := Text.ofNat n
    ⟨stripZeros digits, e + digits.length - 1⟩
  | none =>
    let (n, k) := Binary64.decimal m q
    significant 17 n k

/-! ### Layouts -/

/-- The digits before and behind the point, with the point if it is needed or `keepPoint` asks for
it. -/
def joinPoint (keepPoint : Bool) (parts : Text × Text) : Text :=
  if parts.2.isEmpty && !keepPoint then parts.1 else parts.1 ++ "." ++ parts.2

def exponentText (e : Int) : Text :=
  "e" ++ (if e < 0 then "-" else "+") ++ Text.ofNatPadded 10 2 e.natAbs

def scientificText (keepPoint : Bool) (d : Decimal) : Text :=
  joinPoint keepPoint (d.digits.take 1, d.digits.drop 1) ++ exponentText d.exponent

def fixed (keepPoint : Bool) (count n k : Nat) : Text := joinPoint keepPoint (places count n k)

/-- `n / 10 ^ k` in scientific form with `count` digits behind the point. -/
def scientific (keepPoint : Bool) (count n k : Nat) : Text :=
  let cut := significant (count + 1) n k
  scientificText keepPoint ⟨padRight (count + 1) cut.digits, cut.exponent⟩

/-- `n / 10 ^ k` with `count` digits, positionally if the exponent is at least -4 and below `count`.
Zeros at the end are dropped unless `keepZeros` asks for them, and so is a point at the end. -/
def general (keepZeros : Bool) (count n k : Nat) : Text :=
  let count := max count 1
  let cut := significant count n k
  let digits := if keepZeros then padRight count cut.digits else stripZeros cut.digits
  let d : Decimal := ⟨digits, cut.exponent⟩
  if -4 ≤ d.exponent ∧ d.exponent < count then joinPoint keepZeros d.parts
  else scientificText keepZeros d

/-- The shortest decimal that reads back, written positionally from `0.0001` up to sixteen digits
before the point, with a digit behind the point in any case. -/
def literal (m : Nat) (q : Int) : Text :=
  if m = 0 then "0.0"
  else
    let d := shortest m q
    if -4 ≤ d.exponent ∧ d.exponent < 16 then
      let (whole, fraction) := d.parts
      whole ++ "." ++ (if fraction.isEmpty then Text.ofString "0" else fraction)
    else scientificText false d

end Number

def Binary64.literal : Binary64 → Text
  | .nan => "nan"
  | .infinite s => (if s then "-" else "") ++ "inf"
  | .finite s m q => (if s then "-" else "") ++ Number.literal m q

end CaretReport
