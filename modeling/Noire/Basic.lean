import Mathlib.Algebra.Ring.Nat
import Mathlib.Algebra.Ring.Int.Defs
import Mathlib.Tactic.Common

namespace Noire

/-!
# Machine values

The values of the source that are not Lean's own: saturating unsigned counters,
monotonic clock readings, binary floating point numbers and the string operations the
control plane compares names with.

* `saturatingAdd` — `u64::saturating_add` and its `u32` and `usize` siblings;
* `fromMillis` / `elapsedMillis` — readings of a monotonic clock, in nanoseconds, and the
  whole milliseconds between two of them;
* `F64` — a binary floating point number: an exact dyadic, an infinity or a NaN;
* `trim`, `toAsciiLowercase` — the whitespace and case rules of the string methods.
-/

/-! ## Unsigned counters -/

/-- `u64::MAX`. -/
def u64Max : ℕ := 2 ^ 64 - 1

/-- `u32::MAX`. -/
def u32Max : ℕ := 2 ^ 32 - 1

/-- `a.saturating_add(b)` at a type whose largest value is `max`. -/
def saturatingAdd (max a b : ℕ) : ℕ := min (a + b) max

/-- Below its maximum a counter rises by one. -/
theorem saturatingAdd_one {max a : ℕ} (h : a < max) : saturatingAdd max a 1 = a + 1 :=
  Nat.min_eq_left h

/-- `InputGeneration::INITIAL`. -/
def initialGeneration : ℕ := 1

/-- `a.saturating_mul(b)` at a type whose largest value is `max`. -/
def saturatingMul (max a b : ℕ) : ℕ := min (a * b) max

/-! ## The clock -/

/-- `Duration::from_millis`, in nanoseconds. -/
def fromMillis (n : ℕ) : ℕ := n * 1000000

/-- Whole milliseconds between two readings of the clock, as a `u64`.  A reading
    (`Instant`) is a number of nanoseconds. -/
def elapsedMillis (origin now : ℕ) : ℕ := min ((now - origin) / 1000000) u64Max

/-- A later reading gives at least as many milliseconds. -/
theorem elapsedMillis_mono (origin : ℕ) {a b : ℕ} (h : a ≤ b) :
    elapsedMillis origin a ≤ elapsedMillis origin b := by
  unfold elapsedMillis
  have : (a - origin) / 1000000 ≤ (b - origin) / 1000000 :=
    Nat.div_le_div_right (by omega)
  omega

/-! ## Floating point numbers -/

/-- A binary floating point number (`f64`, or an `f32` widened exactly).  The two zeros are
    one value here: nothing in the program tells them apart. -/
inductive F64
  | finite (value : Dyadic)
  | infinity (negative : Bool)
  | nan
  deriving DecidableEq

namespace F64

/-- `f64::is_finite`. -/
def isFinite : F64 → Bool
  | finite _ => true
  | _ => false

/-- `(low..=high).contains(&self)`. -/
def inRange (low high : Dyadic) : F64 → Bool
  | finite value => low ≤ value ∧ value ≤ high
  | _ => false

/-- `f32::clamp` on finite values; a NaN stays a NaN. -/
def clamp (low high : Dyadic) : F64 → F64
  | finite value => finite (if value < low then low else if high < value then high else value)
  | infinity negative => finite (if negative then low else high)
  | nan => nan

/-- `n / 2 ^ shift` rounded to the nearest integer, a tie to the even one. -/
def roundTiesEven (n : ℤ) (shift : ℕ) : ℤ :=
  let down := n / 2 ^ shift
  let rest := 2 * (n - down * 2 ^ shift)
  if rest < 2 ^ shift then down
  else if 2 ^ shift < rest then down + 1
  else if down % 2 = 0 then down else down + 1

/-- `self as f32`: round to the 24-bit significand of `f32` (149 fractional bits at most,
    below the normal range), and to an infinity past its largest value. -/
def toF32 : F64 → F64
  | finite .zero => finite .zero
  | finite (.ofOdd n k odd) =>
    let exponent : ℤ := n.natAbs.log2 - k
    let fractionBits := min (23 - exponent) 149
    let rounded :=
      if k ≤ fractionBits then .ofOdd n k odd
      else Dyadic.ofIntWithPrec (roundTiesEven n (k - fractionBits).toNat) fractionBits
    if Dyadic.ofInt (2 ^ 128) ≤ rounded then infinity false
    else if rounded ≤ Dyadic.ofInt (-2 ^ 128) then infinity true
    else finite rounded
  | other => other

end F64

/-- The `f64` nearest to `0.55`. -/
def F64.fiftyFivePercent : F64 := .finite (Dyadic.ofIntWithPrec 4953959590107546 53)

example : F64.toF32 F64.fiftyFivePercent = .finite (Dyadic.ofIntWithPrec 9227469 24) := by
  decide +kernel

/-! ## Strings -/

/-- `char::is_whitespace`: the Unicode `White_Space` property. -/
def isWhitespace (c : Char) : Bool :=
  (0x9 ≤ c.toNat ∧ c.toNat ≤ 0xD) ∨ c.toNat = 0x20 ∨ c.toNat = 0x85 ∨ c.toNat = 0xA0 ∨
    c.toNat = 0x1680 ∨ (0x2000 ≤ c.toNat ∧ c.toNat ≤ 0x200A) ∨ c.toNat = 0x2028 ∨
    c.toNat = 0x2029 ∨ c.toNat = 0x202F ∨ c.toNat = 0x205F ∨ c.toNat = 0x3000

/-- Drop a prefix and a suffix of characters that meet `p`. -/
def trimMatches (p : Char → Bool) (s : String) : String :=
  String.ofList (((s.toList.dropWhile p).reverse.dropWhile p).reverse)

/-- `str::trim`. -/
def trim (s : String) : String := trimMatches isWhitespace s

/-- `str::strip_prefix`. -/
def stripPrefix (prefixed s : String) : Option String :=
  (s.toList.dropPrefix? prefixed.toList).map String.ofList

/-- `str::parse` at an unsigned type whose largest value is `max`: an optional `+`, then
    decimal digits, in range. -/
def parseUnsigned (max : ℕ) (s : String) : Option ℕ :=
  let digits := match s.toList with
    | '+' :: rest => rest
    | all => all
  if digits = [] ∨ ¬ digits.all Char.isDigit then none
  else
    let value := digits.foldl (fun n c => 10 * n + (c.toNat - '0'.toNat)) 0
    if value ≤ max then some value else none

/-- `str::to_ascii_lowercase`. -/
def toAsciiLowercase (s : String) : String := String.ofList (s.toList.map Char.toLower)

/-- `str::eq_ignore_ascii_case`. -/
def eqIgnoreAsciiCase (s t : String) : Bool := toAsciiLowercase s = toAsciiLowercase t

/-- `str::to_lowercase`, whose Unicode tables are the standard library's: the model is
    stated for any such function. -/
class UnicodeCase where
  /-- `str::to_lowercase`. -/
  toLowercase : String → String

/-- Lower case of ASCII text, where `str::to_lowercase` agrees with it. -/
@[reducible] def asciiCase : UnicodeCase := ⟨toAsciiLowercase⟩

end Noire
