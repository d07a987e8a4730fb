import Mathlib.Data.BitVec
import Mathlib.Tactic.Common

namespace Noire.Lib

/-!
# Binary32 arithmetic

The 32-bit binary floating-point format, by its bit patterns.  A finite magnitude is a
whole number of *units* of `2 ^ -149`, the smallest subnormal, so the exact result of an
operation is a ratio of naturals, and `roundUnits` rounds that ratio once, to the nearest
pattern and to the even one of two.

* Classification (`isNaN`, `isFinite`, `isSubnormal`, `isZero`) and the comparisons read
  the pattern itself;
* `add`, `sub`, `mul`, `div`, `mulAdd`, `sqrt`, `ofNat` round the exact result once.  A NaN
  result is the canonical quiet one: its sign and payload are not specified.
-/

/-- A binary32 datum. -/
structure Binary32 where
  bits : BitVec 32
  deriving DecidableEq

namespace Binary32

/-- The magnitude of the infinities; the larger ones are the NaNs. -/
def infinityBits : ℕ := 0x7F800000

/-- The datum of a sign and of the 31 bits below it. -/
def pack (negative : Bool) (magnitude : ℕ) : Binary32 :=
  ⟨BitVec.ofNat 32 (magnitude + if negative then 2 ^ 31 else 0)⟩

/-- `+0`. -/
def zero : Binary32 := ⟨0⟩

/-- `1`. -/
def one : Binary32 := ⟨0x3F800000⟩

/-- `-1`. -/
def minusOne : Binary32 := ⟨0xBF800000⟩

/-- The quiet NaN. -/
def nan : Binary32 := ⟨0x7FC00000⟩

/-! ## Classification -/

/-- The sign bit. -/
def negative (x : Binary32) : Bool := x.bits.msb

/-- The 31 bits below the sign. -/
def magnitude (x : Binary32) : ℕ := x.bits.toNat % 2 ^ 31

/-- Not a number. -/
def isNaN (x : Binary32) : Bool := infinityBits < x.magnitude

/-- Neither an infinity nor a NaN. -/
def isFinite (x : Binary32) : Bool := x.magnitude < infinityBits

/-- Nonzero, and below the normal range. -/
def isSubnormal (x : Binary32) : Bool := 0 < x.magnitude ∧ x.magnitude < 2 ^ 23

/-- Either zero. -/
def isZero (x : Binary32) : Bool := x.magnitude = 0

/-- A zero is one of two patterns. -/
theorem eq_of_isZero {x : Binary32} (h : x.isZero = true) : x = pack false 0 ∨ x = pack true 0 := by
  have hmod : x.bits.toNat % 2 ^ 31 = 0 := of_decide_eq_true h
  have hlt := x.bits.isLt
  rcases (by omega : x.bits.toNat = 0 ∨ x.bits.toNat = 2 ^ 31) with hbits | hbits
  · exact .inl (congrArg Binary32.mk (BitVec.eq_of_toNat_eq hbits))
  · exact .inr (congrArg Binary32.mk (BitVec.eq_of_toNat_eq hbits))

/-! ## Order -/

/-- The place of a datum in the order of the numbers; the two zeros share one. -/
def key (x : Binary32) : ℤ := if x.negative then -x.magnitude else x.magnitude

/-- `x < y`. -/
def lt (x y : Binary32) : Bool := !x.isNaN && !y.isNaN && decide (x.key < y.key)

/-- `x ≤ y`. -/
def le (x y : Binary32) : Bool := !x.isNaN && !y.isNaN && decide (x.key ≤ y.key)

/-- `x` brought into `[low, high]`; a NaN stays a NaN. -/
def clamp (x low high : Binary32) : Binary32 :=
  let x := if x.lt low then low else x
  if high.lt x then high else x

/-- `|x|`. -/
def abs (x : Binary32) : Binary32 := pack false x.magnitude

/-- The larger of two data; a NaN gives way to the other one. -/
def max (x y : Binary32) : Binary32 :=
  if x.isNaN then y else if y.isNaN then x else if x.lt y then y else x

/-! ## Arithmetic -/

/-- The magnitude of a finite datum, in units. -/
def units (x : Binary32) : ℕ :=
  let exponent := x.magnitude / 2 ^ 23
  let fraction := x.magnitude % 2 ^ 23
  if exponent = 0 then fraction else (2 ^ 23 + fraction) * 2 ^ (exponent - 1)

/-- A finite datum, in units. -/
def value (x : Binary32) : ℤ := if x.negative then -x.units else x.units

/-- `n / d` to the nearest natural, a tie to the even one. -/
def nearestEven (n d : ℕ) : ℕ :=
  let down := n / d
  let rest := 2 * (n % d)
  if rest < d then down else if d < rest then down + 1 else down + down % 2

/-- The magnitude nearest to `n / d` units.  A significand that rounds up to `2 ^ 24`
    carries into the exponent, and past the largest finite one to infinity. -/
def roundUnits (n d : ℕ) : ℕ :=
  -- Below 2 ^ 24 units the spacing is one unit; the natural subtraction stops there.
  let exponent := (n / d).log2 - 23
  min infinityBits (exponent * 2 ^ 23 + nearestEven n (d * 2 ^ exponent))

/-- `-x`. -/
def neg (x : Binary32) : Binary32 := pack (!x.negative) x.magnitude

/-- `x + y`.  Opposite numbers add to `+0`; only two negative zeros add to `-0`. -/
def add (x y : Binary32) : Binary32 :=
  if x.isNaN || y.isNaN then nan
  else if !x.isFinite then
    if !y.isFinite && x.negative != y.negative then nan else x
  else if !y.isFinite then y
  -- The sign of an exact zero is the one rule the value does not decide.
  else if x.value + y.value = 0 then pack (x.negative && y.negative) 0
  else pack (decide (x.value + y.value < 0)) (roundUnits (x.value + y.value).natAbs 1)

/-- `x - y`. -/
def sub (x y : Binary32) : Binary32 := x.add y.neg

/-- `x * y`. -/
def mul (x y : Binary32) : Binary32 :=
  let sign := x.negative != y.negative
  if x.isNaN || y.isNaN then nan
  else if !x.isFinite || !y.isFinite then
    if x.isZero || y.isZero then nan else pack sign infinityBits
  else pack sign (roundUnits (x.units * y.units) (2 ^ 149))

/-- `x / y`. -/
def div (x y : Binary32) : Binary32 :=
  let sign := x.negative != y.negative
  if x.isNaN || y.isNaN then nan
  else if !x.isFinite then if !y.isFinite then nan else pack sign infinityBits
  else if !y.isFinite then pack sign 0
  else if y.isZero then if x.isZero then nan else pack sign infinityBits
  else pack sign (roundUnits (x.units * 2 ^ 149) y.units)

/-- `x * y + z`, rounded once. -/
def mulAdd (x y z : Binary32) : Binary32 :=
  let sign := x.negative != y.negative
  if x.isNaN || y.isNaN || z.isNaN then nan
  else if !x.isFinite || !y.isFinite then (x.mul y).add z
  else if !z.isFinite then z
  else
    let sum := x.value * y.value + z.value * 2 ^ 149
    if sum = 0 then pack (sign && z.negative) 0
    else pack (decide (sum < 0)) (roundUnits sum.natAbs (2 ^ 149))

/-- The square root of `x`. -/
def sqrt (x : Binary32) : Binary32 :=
  if x.isNaN || x.isZero then x
  else if x.negative then nan
  else if !x.isFinite then x
  else
    -- The root has more than 70 bits before the point: whether any follow decides a tie.
    let square := x.units * 2 ^ 149
    let root := square.sqrt
    pack false (roundUnits (2 * root + if root * root = square then 0 else 1) 2)

/-- The datum nearest to a natural. -/
def ofNat (n : ℕ) : Binary32 := pack false (roundUnits (n * 2 ^ 149) 1)

/-! ## What is rounded -/

/-- A rounded magnitude is at most that of the infinities. -/
theorem roundUnits_le (n d : ℕ) : roundUnits n d ≤ infinityBits := Nat.min_le_left _ _

/-- What is packed has its magnitude, up to the infinities. -/
theorem magnitude_pack (negative : Bool) {magnitude : ℕ} (h : magnitude ≤ infinityBits) :
    (pack negative magnitude).magnitude = magnitude := by
  have hbits : infinityBits = 0x7F800000 := rfl
  unfold pack Binary32.magnitude
  rw [BitVec.toNat_ofNat]
  split <;> omega

theorem negative_pack (negative : Bool) {magnitude : ℕ} (h : magnitude ≤ infinityBits) :
    (pack negative magnitude).negative = negative := by
  have hbits : infinityBits = 0x7F800000 := rfl
  unfold pack Binary32.negative
  rw [BitVec.msb_eq_decide, BitVec.toNat_ofNat]
  cases negative with
  | true => exact decide_eq_true (by rw [if_pos rfl]; omega)
  | false => exact decide_eq_false (by rw [if_neg Bool.false_ne_true]; omega)

/-- What is rounded is no NaN. -/
theorem isNaN_pack (negative : Bool) {magnitude : ℕ} (h : magnitude ≤ infinityBits) :
    (pack negative magnitude).isNaN = false := by
  unfold isNaN
  rw [magnitude_pack negative h]
  exact decide_eq_false (Nat.not_lt.mpr h)

theorem isNaN_of_isFinite {x : Binary32} (h : x.isFinite = true) : x.isNaN = false := by
  have hlt : x.magnitude < infinityBits := of_decide_eq_true h
  exact decide_eq_false (Nat.not_lt.mpr (Nat.le_of_lt hlt))

/-! ## What is no NaN -/

/-- A datum that is not below zero: a NaN is not, and neither zero is. -/
theorem zero_le_iff {x : Binary32} :
    zero.le x = true ↔ x.isNaN = false ∧ (x.negative = true → x.magnitude = 0) := by
  have hzero : zero.isNaN = false ∧ zero.key = 0 := by decide
  unfold le
  rw [hzero.1, hzero.2, Bool.not_false, Bool.true_and, Bool.and_eq_true, Bool.not_eq_true',
    decide_eq_true_iff]
  refine and_congr_right fun _ => ?_
  unfold key
  cases x.negative with
  | true => simp
  | false => simp

/-- What is rounded without a sign is not below zero. -/
theorem zero_le_pack {magnitude : ℕ} (h : magnitude ≤ infinityBits) :
    zero.le (pack false magnitude) = true := by
  refine zero_le_iff.mpr ⟨isNaN_pack false h, fun hnegative => ?_⟩
  rw [negative_pack false h] at hnegative
  cases hnegative

/-- A magnitude of zero is no units. -/
theorem units_of_magnitude {x : Binary32} (h : x.magnitude = 0) : x.units = 0 := by
  unfold units
  rw [h]
  rfl

/-- The value of a datum that is not below zero is its units. -/
theorem value_of_zero_le {x : Binary32} (h : zero.le x = true) : x.value = x.units := by
  obtain ⟨-, hnegative⟩ := zero_le_iff.mp h
  unfold value
  split
  · next hsign =>
    rw [units_of_magnitude (hnegative hsign)]
    rfl
  · rfl

/-- A datum that is not finite and not below zero has no sign. -/
theorem negative_of_zero_le {x : Binary32} (h : zero.le x = true) (hfinite : x.isFinite = false) :
    x.negative = false := by
  obtain ⟨-, hnegative⟩ := zero_le_iff.mp h
  have hle : infinityBits ≤ x.magnitude := Nat.not_lt.mp (of_decide_eq_false hfinite)
  refine Bool.eq_false_iff.mpr fun hsign => ?_
  rw [hnegative hsign] at hle
  exact absurd hle (by decide)

/-- **Sums of data that are not below zero** are not. -/
theorem zero_le_add {x y : Binary32} (hx : zero.le x = true) (hy : zero.le y = true) :
    zero.le (x.add y) = true := by
  have hnanX := (zero_le_iff.mp hx).1
  have hnanY := (zero_le_iff.mp hy).1
  have hzeros : ∀ sign, zero.le (pack sign 0) = true := by decide
  unfold add
  rw [hnanX, hnanY, if_neg (by decide)]
  by_cases hfinite : x.isFinite = true
  · by_cases hfinite' : y.isFinite = true
    · rw [hfinite, hfinite', if_neg (by decide), if_neg (by decide)]
      -- A finite sum that is not zero keeps the sign of its summands.
      by_cases hsum : x.value + y.value = 0
      · rw [if_pos hsum]
        exact hzeros _
      · rw [value_of_zero_le hx, value_of_zero_le hy] at hsum ⊢
        have hsign : decide ((x.units : ℤ) + y.units < 0) = false := decide_eq_false (by omega)
        rw [if_neg hsum, hsign]
        exact zero_le_pack (roundUnits_le _ _)
    · rw [hfinite, Bool.eq_false_iff.mpr hfinite', if_neg (by decide), if_pos (by decide)]
      exact hy
  · have hinfinite := Bool.eq_false_iff.mpr hfinite
    rw [hinfinite, if_pos (by decide), negative_of_zero_le hx hinfinite]
    by_cases hfinite' : y.isFinite = true
    · rw [hfinite', if_neg (by simp)]
      exact hx
    · have hinfinite' := Bool.eq_false_iff.mpr hfinite'
      rw [negative_of_zero_le hy hinfinite', if_neg (by simp)]
      exact hx

/-- A square is not below zero. -/
theorem zero_le_mul_self {x : Binary32} (h : x.isNaN = false) : zero.le (x.mul x) = true := by
  unfold mul
  dsimp only
  rw [h, bne_self_eq_false, if_neg (by decide)]
  by_cases hfinite : x.isFinite = true
  · rw [hfinite, if_neg (by decide)]
    exact zero_le_pack (roundUnits_le _ _)
  · have hzero : x.isZero = false := by
      have hle : infinityBits ≤ x.magnitude :=
        Nat.not_lt.mp (of_decide_eq_false (Bool.eq_false_iff.mpr hfinite))
      have hbits : infinityBits = 0x7F800000 := rfl
      exact decide_eq_false (by omega)
    rw [Bool.eq_false_iff.mpr hfinite, hzero, if_pos (by decide), if_neg (by decide)]
    exact zero_le_pack (Nat.le_refl _)

/-- A difference from a finite datum is a number. -/
theorem isNaN_sub {x y : Binary32} (hx : x.isNaN = false) (hy : y.neg.isFinite = true) :
    (x.sub y).isNaN = false := by
  unfold sub add
  rw [hx, isNaN_of_isFinite hy, hy, if_neg (by decide)]
  by_cases hfinite : x.isFinite = true
  · rw [hfinite, if_neg (by decide), if_neg (by decide)]
    split
    · exact isNaN_pack _ (Nat.zero_le _)
    · exact isNaN_pack _ (roundUnits_le _ _)
  · rw [Bool.eq_false_iff.mpr hfinite, if_pos (by decide), if_neg (by simp)]
    exact hx

/-- A quotient by a finite datum other than zero is a number. -/
theorem isNaN_div {x y : Binary32} (hx : x.isNaN = false) (hy : y.isFinite = true)
    (hzero : y.isZero = false) : (x.div y).isNaN = false := by
  unfold div
  dsimp only
  rw [hx, isNaN_of_isFinite hy, hy, hzero, if_neg (by decide)]
  by_cases hfinite : x.isFinite = true
  · rw [hfinite, if_neg (by decide), if_neg (by decide), if_neg (by decide)]
    exact isNaN_pack _ (roundUnits_le _ _)
  · rw [Bool.eq_false_iff.mpr hfinite, if_pos (by decide), if_neg (by decide)]
    exact isNaN_pack _ (Nat.le_refl _)

/-- **What is clamped is within its bounds.** -/
theorem clamp_mem {low high x : Binary32} (hbounds : low.le high = true) (hx : x.isNaN = false) :
    low.le (x.clamp low high) = true ∧ (x.clamp low high).le high = true := by
  have hnumbers : low.isNaN = false ∧ high.isNaN = false ∧ low.key ≤ high.key := by
    unfold le at hbounds
    simpa [and_assoc] using hbounds
  obtain ⟨hlow, hhigh, hkeys⟩ := hnumbers
  unfold clamp le lt
  dsimp only
  by_cases hbelow : x.key < low.key
  · have hnot : ¬high.key < low.key := by omega
    simp [hlow, hhigh, hx, hbelow, hnot, hkeys]
  · by_cases habove : high.key < x.key
    · simp [hlow, hhigh, hx, hbelow, habove, hkeys]
    · simp [hlow, hhigh, hx, hbelow, habove]
      omega

/-- What compares is a number. -/
theorem isNaN_of_le {x y : Binary32} (h : x.le y = true) : x.isNaN = false ∧ y.isNaN = false := by
  unfold le at h
  rw [Bool.and_eq_true, Bool.and_eq_true, Bool.not_eq_true', Bool.not_eq_true'] at h
  exact h.1

/-- What lies in the unit interval is finite. -/
theorem isFinite_of_mem {x : Binary32} (h : zero.le x = true) (h' : x.le one = true) :
    x.isFinite = true := by
  obtain ⟨-, hnegative⟩ := zero_le_iff.mp h
  have hone : one.key = 0x3F800000 := by decide
  have hkey : x.key ≤ one.key := by
    unfold le at h'
    exact of_decide_eq_true (Bool.and_eq_true_iff.mp h').2
  have hbits : infinityBits = 0x7F800000 := rfl
  rw [hone] at hkey
  refine decide_eq_true ?_
  unfold key at hkey
  split at hkey
  · next hsign =>
    rw [hnegative hsign]
    decide
  · omega

/-- A finite datum times a zero is a zero. -/
theorem mul_isZero {x y : Binary32} (hx : x.isFinite = true) (hy : y.isZero = true) :
    (x.mul y).isZero = true := by
  have hzero : y.isNaN = false ∧ y.isFinite = true ∧ y.units = 0 := by
    rcases eq_of_isZero hy with rfl | rfl <;> decide
  unfold mul
  dsimp only
  rw [isNaN_of_isFinite hx, hx, hzero.1, hzero.2.1, hzero.2.2, Nat.mul_zero]
  have hpack : ∀ sign, (pack sign (roundUnits 0 (2 ^ 149))).isZero = true := by decide
  exact hpack _

-- `1/10 + 2/10`, `1/3`, and a product in the subnormal range.
example : add ⟨0x3DCCCCCD⟩ ⟨0x3E4CCCCD⟩ = ⟨0x3E99999A⟩ := by decide +kernel
example : div one (ofNat 3) = ⟨0x3EAAAAAB⟩ := by decide +kernel
example : mul ⟨0x0D800000⟩ ⟨0xB0400001⟩ = ⟨0x80060000⟩ := by decide +kernel

-- `3` and `1/2`, clamped.
example : (ofNat 3).clamp minusOne one = one := by decide
example : clamp ⟨0x3F000000⟩ minusOne one = ⟨0x3F000000⟩ := by decide

-- `3 * 3 - 9`, and the root of `2`.
example : mulAdd (ofNat 3) (ofNat 3) (ofNat 9).neg = zero := by decide +kernel
example : sqrt (ofNat 2) = ⟨0x3FB504F3⟩ := by decide +kernel

end Binary32

end Noire.Lib
