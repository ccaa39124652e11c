import Mathlib.Data.Nat.Defs
import Mathlib.Data.Int.Defs
import Mathlib.Algebra.Group.Int
import Mathlib.Algebra.Order.Ring.Nat

/-! IEEE 754 binary32 (`float`) and binary64 (`double`) values as the bit
patterns `memcpy` moves and `union floatuint` exposes. Arithmetic is exact
integer arithmetic on the value `n * 2^e` followed by one rounding to the
nearest representable value, ties to even; NaNs keep their payload as the
x86-64 instructions do. Only the operations the codec uses are modelled. -/
namespace GSerialized

/-- An interchange format: `mantBits` fraction bits and `expBits` exponent bits. -/
structure Format where
  mantBits : Nat
  expBits : Nat

def binary32 : Format := ⟨23, 8⟩
def binary64 : Format := ⟨52, 11⟩

namespace Format
variable (F : Format)

def signMask : Nat := 2 ^ (F.mantBits + F.expBits)
def expMax : Nat := 2 ^ F.expBits - 1
/-- The exponent of the least subnormal: every finite value is `m * 2^qmin`. -/
def qmin : Int := 2 - 2 ^ (F.expBits - 1) - F.mantBits

def signBit (bits : Nat) : Bool := bits / F.signMask % 2 = 1
def expField (bits : Nat) : Nat := bits / 2 ^ F.mantBits % 2 ^ F.expBits
def mantField (bits : Nat) : Nat := bits % 2 ^ F.mantBits

def isNaN (bits : Nat) : Bool := F.expField bits = F.expMax && F.mantField bits ≠ 0
def isInf (bits : Nat) : Bool := F.expField bits = F.expMax && F.mantField bits = 0

/-- The magnitude of a finite value in units of `2^qmin`. -/
def magnitude (bits : Nat) : Nat :=
  if F.expField bits = 0 then F.mantField bits
  else (2 ^ F.mantBits + F.mantField bits) * 2 ^ (F.expField bits - 1)

/-- Orders the non-NaN values as the extended reals, with both zeros equal. -/
def orderKey (bits : Nat) : Int :=
  let mag : Int := if F.isInf bits then 2 ^ (2 ^ F.expBits + F.mantBits) else F.magnitude bits
  if F.signBit bits then -mag else mag

/-- `⌊log₂ n⌋` for `n < 2^8192`, found by halving the shift thirteen times, so
that it evaluates by reduction. -/
def log2Go : Nat → Nat → Nat → Nat
  | 0, acc, _ => acc
  | k + 1, acc, n => if n >>> 2 ^ k = 0 then log2Go k acc n else log2Go k (acc + 2 ^ k) (n >>> 2 ^ k)

/-- `(-1)^neg * n * 2^e`, rounded to nearest with ties to even and encoded;
a result too large for the format is an infinity. -/
def roundEncode (neg : Bool) (n : Nat) (e : Int) : Nat :=
  let sign := if neg then F.signMask else 0
  if n = 0 then sign else
  let q : Int := max ((log2Go 13 0 n : Int) + e - F.mantBits) F.qmin
  let m : Nat :=
    if q ≤ e then n * 2 ^ (e - q).toNat
    else
      let s := (q - e).toNat
      let r := n % 2 ^ s
      if r > 2 ^ s / 2 ∨ (r = 2 ^ s / 2 ∧ n / 2 ^ s % 2 = 1) then n / 2 ^ s + 1 else n / 2 ^ s
  let (m, q) := if m = 2 ^ (F.mantBits + 1) then (2 ^ F.mantBits, q + 1) else (m, q)
  if m < 2 ^ F.mantBits then sign + m
  else if q - F.qmin + 1 ≥ F.expMax then sign + F.expMax * 2 ^ F.mantBits
  else sign + (q - F.qmin + 1).toNat * 2 ^ F.mantBits + (m - 2 ^ F.mantBits)

end Format

/-- The NaN an invalid operation produces on x86-64. -/
def defaultNaN64 : Nat := 0xFFF8000000000000

def quiet64 (bits : Nat) : Nat := bits ||| 0x0008000000000000
def quiet32 (bits : Nat) : Nat := bits ||| 0x00400000

/-- `a < b` on doubles: false when either is NaN. -/
def doubleLt (a b : UInt64) : Bool :=
  !binary64.isNaN a.toNat && !binary64.isNaN b.toNat &&
    decide (binary64.orderKey a.toNat < binary64.orderKey b.toNat)

def doubleLe (a b : UInt64) : Bool :=
  !binary64.isNaN a.toNat && !binary64.isNaN b.toNat &&
    decide (binary64.orderKey a.toNat ≤ binary64.orderKey b.toNat)

def floatLt (a b : UInt32) : Bool :=
  !binary32.isNaN a.toNat && !binary32.isNaN b.toNat &&
    decide (binary32.orderKey a.toNat < binary32.orderKey b.toNat)

def doubleAdd (a b : UInt64) : UInt64 :=
  let F := binary64
  let x := a.toNat
  let y := b.toNat
  UInt64.ofNat <|
    if F.isNaN x then quiet64 x
    else if F.isNaN y then quiet64 y
    else if F.isInf x then (if F.isInf y && F.signBit x != F.signBit y then defaultNaN64 else x)
    else if F.isInf y then y
    else
      let vx : Int := if F.signBit x then -(F.magnitude x : Int) else F.magnitude x
      let vy : Int := if F.signBit y then -(F.magnitude y : Int) else F.magnitude y
      if vx + vy = 0 then (if F.signBit x && F.signBit y then F.signMask else 0)
      else F.roundEncode (vx + vy < 0) (vx + vy).natAbs F.qmin

def doubleMul (a b : UInt64) : UInt64 :=
  let F := binary64
  let x := a.toNat
  let y := b.toNat
  let neg := F.signBit x != F.signBit y
  let sign := if neg then F.signMask else 0
  UInt64.ofNat <|
    if F.isNaN x then quiet64 x
    else if F.isNaN y then quiet64 y
    else if F.isInf x || F.isInf y then
      (if F.magnitude x = 0 && !F.isInf x || F.magnitude y = 0 && !F.isInf y then defaultNaN64
        else sign + F.expMax * 2 ^ F.mantBits)
    else F.roundEncode neg (F.magnitude x * F.magnitude y) (2 * F.qmin)

def doubleTwo : UInt64 := 0x4000000000000000

/-- `(float) d`: rounding to nearest; a NaN keeps the high bits of its payload. -/
def doubleToFloat (d : UInt64) : UInt32 :=
  let x := d.toNat
  let sign := if binary64.signBit x then binary32.signMask else 0
  UInt32.ofNat <|
    if binary64.isNaN x then quiet32 (sign + binary32.expMax * 2 ^ 23 + binary64.mantField x / 2 ^ 29)
    else if binary64.isInf x then sign + binary32.expMax * 2 ^ 23
    else binary32.roundEncode (binary64.signBit x) (binary64.magnitude x) binary64.qmin

/-- `(double) f`: exact. -/
def floatToDouble (f : UInt32) : UInt64 :=
  let x := f.toNat
  let sign := if binary32.signBit x then binary64.signMask else 0
  UInt64.ofNat <|
    if binary32.isNaN x then quiet64 (sign + binary64.expMax * 2 ^ 52 + binary32.mantField x * 2 ^ 29)
    else if binary32.isInf x then sign + binary64.expMax * 2 ^ 52
    else binary64.roundEncode (binary32.signBit x) (binary32.magnitude x) binary32.qmin

/-- `nextafterf(x, y)`: the float next to `x` in the direction of `y`. -/
def nextafterf (x y : UInt32) : UInt32 :=
  let F := binary32
  if F.isNaN x.toNat then UInt32.ofNat (quiet32 x.toNat)
  else if F.isNaN y.toNat then UInt32.ofNat (quiet32 y.toNat)
  else if F.orderKey x.toNat = F.orderKey y.toNat then y
  else if F.magnitude x.toNat = 0 && !F.isInf x.toNat then
    UInt32.ofNat ((if F.signBit y.toNat then F.signMask else 0) + 1)
  else if (F.orderKey x.toNat < F.orderKey y.toNat) = F.signBit x.toNat then x - 1
  else x + 1

def fltMax : UInt32 := 0x7F7FFFFF
def negFltMax : UInt32 := 0xFF7FFFFF

/-- Modelled from the spec: `next_float_down`, the double rounded to the nearest
float and, when that went up, stepped by `nextafterf` toward `-FLT_MAX`, as
PostGIS does. That is the largest float not above the double, except for a
double just below `-FLT_MAX` that rounds to it: the step toward `-FLT_MAX`
leaves it there, above the double. -/
def nextFloatDown (d : UInt64) : UInt32 :=
  let result := doubleToFloat d
  if doubleLe (floatToDouble result) d then result else nextafterf result negFltMax

/-- Modelled from the spec: `next_float_up`, the double rounded to the nearest
float and, when that went down, stepped by `nextafterf` toward `FLT_MAX`. That is
the smallest float not below the double, except for a double just above
`FLT_MAX` that rounds to it, which stays at `FLT_MAX`, below the double. -/
def nextFloatUp (d : UInt64) : UInt32 :=
  let result := doubleToFloat d
  if doubleLe d (floatToDouble result) then result else nextafterf result fltMax

/-- Modelled from the spec: `FP_MIN` and `FP_MAX`, the component-wise minimum and
maximum, as the conditionals `A < B ? A : B` and `A > B ? A : B`. -/
def fpMin (a b : UInt64) : UInt64 := if doubleLt a b then a else b
def fpMax (a b : UInt64) : UInt64 := if doubleLt b a then a else b

section
variable {a b : UInt64}

/-- The order key of a double, an integer that orders the non-NaN doubles. -/
abbrev key (a : UInt64) : Int := binary64.orderKey a.toNat

theorem doubleLt_iff (ha : binary64.isNaN a.toNat = false) (hb : binary64.isNaN b.toNat = false) :
    doubleLt a b ↔ key a < key b := by
  simp [doubleLt, ha, hb]

theorem doubleLe_iff (ha : binary64.isNaN a.toNat = false) (hb : binary64.isNaN b.toNat = false) :
    doubleLe a b ↔ key a ≤ key b := by
  simp [doubleLe, ha, hb]

theorem key_fpMin (ha : binary64.isNaN a.toNat = false) (hb : binary64.isNaN b.toNat = false) :
    key (fpMin a b) = min (key a) (key b) := by
  unfold fpMin; split <;> rename_i h <;> rw [doubleLt_iff ha hb] at h <;> omega

theorem key_fpMax (ha : binary64.isNaN a.toNat = false) (hb : binary64.isNaN b.toNat = false) :
    key (fpMax a b) = max (key a) (key b) := by
  unfold fpMax; split <;> rename_i h <;> rw [doubleLt_iff hb ha] at h <;> omega

theorem fpMin_mem : fpMin a b = a ∨ fpMin a b = b := by
  unfold fpMin; split <;> simp

theorem fpMax_mem : fpMax a b = a ∨ fpMax a b = b := by
  unfold fpMax; split <;> simp

end

end GSerialized
