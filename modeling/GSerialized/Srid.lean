import GSerialized.Bytes
import Mathlib.Data.Int.Defs

/-! The spatial reference identifier: `clamp_srid` of `lwutil.c` and the
three-byte codec `gserialized_set_srid` / `gserialized_get_srid`. -/
namespace GSerialized

/-- Modelled from the spec: `SRID_UNKNOWN`, the identifier a stored zero stands for. -/
def sridUnknown : Int := 0

/-- `SRID_MAXIMUM` and `SRID_USER_MAXIMUM` come from `liblwgeom.h`, outside the
sources, and are parameters here. The fold of `clamp_srid` divides by
`SRID_MAXIMUM - SRID_USER_MAXIMUM - 1`, which the library keeps positive, and the
codec has 21 bits, which the library's maximum stays below the sign bit of. -/
structure SridLimits where
  sridMaximum : Int
  sridUserMaximum : Int
  userMaximum_nonneg : 0 ≤ sridUserMaximum
  userMaximum_lt : sridUserMaximum + 1 < sridMaximum
  maximum_lt : sridMaximum < 2 ^ 20

section
variable (L : SridLimits)

/-- `clamp_srid`. C's `%` truncates; the dividend is positive on that branch. -/
def clampSrid (srid : Int) : Int :=
  if srid ≤ 0 then (if srid ≠ sridUnknown then sridUnknown else srid)
  else if srid > L.sridMaximum then
    L.sridUserMaximum + 1 + srid.tmod (L.sridMaximum - L.sridUserMaximum - 1)
  else srid

/-- `gserialized_set_srid`: the three SRID bytes of the header. -/
def gserializedSetSrid (srid : Int) : List UInt8 :=
  let srid := clampSrid L srid
  let srid := if srid = sridUnknown then 0 else srid
  let bits := BitVec.ofInt 32 srid
  [UInt8.ofNat ((bits &&& 0x001F0000) >>> 16).toNat, UInt8.ofNat ((bits &&& 0x0000FF00) >>> 8).toNat,
    UInt8.ofNat (bits &&& 0x000000FF).toNat]

@[simp] theorem length_gserializedSetSrid (srid : Int) : (gserializedSetSrid L srid).length = 3 := rfl

end

/-- `gserialized_get_srid`: a 21-bit field, sign-extended by the shift pair. -/
def gserializedGetSrid (srid0 srid1 srid2 : UInt8) : Int :=
  let srid : BitVec 32 := (0 : BitVec 32) ||| (BitVec.ofNat 32 srid0.toNat <<< 16)
  let srid := srid ||| (BitVec.ofNat 32 srid1.toNat <<< 8)
  let srid := srid ||| BitVec.ofNat 32 srid2.toNat
  let srid := (srid <<< 11).sshiftRight 11
  if srid = 0 then sridUnknown else srid.toInt

/-- `gserialized_cmp_srid`: 0 when the three bytes agree. -/
def gserializedCmpSrid (srid1 srid2 : List UInt8) : Nat := if srid1 = srid2 then 0 else 1

section
variable (L : SridLimits)

theorem clampSrid_range (srid : Int) :
    clampSrid L srid = sridUnknown ∨ 1 ≤ clampSrid L srid ∧ clampSrid L srid ≤ L.sridMaximum := by
  have := L.userMaximum_nonneg; have := L.userMaximum_lt
  unfold clampSrid
  split_ifs with h1 h2 h3
  · exact .inl rfl
  · exact .inl (by simp only [sridUnknown] at *; omega)
  · have hm : 0 < L.sridMaximum - L.sridUserMaximum - 1 := by omega
    have h0 : 0 ≤ srid.tmod (L.sridMaximum - L.sridUserMaximum - 1) :=
      Int.tmod_nonneg _ (by omega)
    have hlt := Int.tmod_lt_of_pos srid hm
    exact .inr ⟨by omega, by omega⟩
  · exact .inr ⟨by omega, by omega⟩

theorem clampSrid_nonneg (srid : Int) : 0 ≤ clampSrid L srid := by
  rcases clampSrid_range L srid with h | h
  · rw [h]; decide
  · omega

theorem clampSrid_lt (srid : Int) : clampSrid L srid < 2 ^ 20 := by
  have := L.maximum_lt
  rcases clampSrid_range L srid with h | h
  · rw [h]; decide
  · omega

theorem clampSrid_clampSrid (srid : Int) : clampSrid L (clampSrid L srid) = clampSrid L srid := by
  rcases clampSrid_range L srid with h | h
  · rw [h]; simp [clampSrid, sridUnknown]
  · generalize clampSrid L srid = c at h ⊢
    rw [clampSrid, if_neg (by omega), if_neg (by omega)]

end

private theorem and_mask_shift (n k w : Nat) : (n &&& (2 ^ w - 1) <<< k) >>> k = n / 2 ^ k % 2 ^ w := by
  apply Nat.eq_of_testBit_eq
  intro i
  simp only [Nat.testBit_shiftRight, Nat.testBit_and, Nat.testBit_shiftLeft, Nat.testBit_mod_two_pow,
    Nat.testBit_two_pow_sub_one, ← Nat.shiftRight_eq_div_pow]
  by_cases hi : i < w <;> simp [hi]

private theorem srid_bytes (c : Nat) (hc : c < 2 ^ 20) :
    let bits := BitVec.ofInt 32 (c : Int)
    [UInt8.ofNat ((bits &&& 0x001F0000) >>> 16).toNat, UInt8.ofNat ((bits &&& 0x0000FF00) >>> 8).toNat,
      UInt8.ofNat (bits &&& 0x000000FF).toNat] =
    [UInt8.ofNat (c / 2 ^ 16 % 2 ^ 5), UInt8.ofNat (c / 2 ^ 8 % 2 ^ 8), UInt8.ofNat (c % 2 ^ 8)] := by
  have hbits : (BitVec.ofInt 32 (c : Int)).toNat = c := by
    rw [BitVec.toNat_ofInt]; omega
  simp only [BitVec.toNat_ushiftRight, BitVec.toNat_and, hbits]
  rw [show (0x001F0000 : BitVec 32).toNat = (2 ^ 5 - 1) <<< 16 from rfl,
    show (0x0000FF00 : BitVec 32).toNat = (2 ^ 8 - 1) <<< 8 from rfl,
    show (0x000000FF : BitVec 32).toNat = 2 ^ 8 - 1 from rfl, and_mask_shift, and_mask_shift,
    Nat.and_pow_two_sub_one_eq_mod]

private theorem getSrid_of_bytes (c : Nat) (hc : c < 2 ^ 20) :
    gserializedGetSrid (UInt8.ofNat (c / 2 ^ 16 % 2 ^ 5)) (UInt8.ofNat (c / 2 ^ 8 % 2 ^ 8))
      (UInt8.ofNat (c % 2 ^ 8)) = if c = 0 then sridUnknown else c := by
  have e0 : (UInt8.ofNat (c / 2 ^ 16 % 2 ^ 5)).toNat = c / 2 ^ 16 := by
    show _ % 256 = _; omega
  have e1 : (UInt8.ofNat (c / 2 ^ 8 % 2 ^ 8)).toNat = c / 2 ^ 8 % 2 ^ 8 := by
    show _ % 256 = _; omega
  have e2 : (UInt8.ofNat (c % 2 ^ 8)).toNat = c % 2 ^ 8 := by
    show _ % 256 = _; omega
  have h4 : 2 ^ 16 * (c / 2 ^ 16) ||| 2 ^ 8 * (c / 2 ^ 8 % 2 ^ 8) = 2 ^ 8 * (c / 2 ^ 8) := by
    rw [← Nat.mul_add_lt_is_or (by omega)]; omega
  have h5 : 2 ^ 8 * (c / 2 ^ 8) ||| c % 2 ^ 8 = c := by
    rw [← Nat.mul_add_lt_is_or (by omega)]; omega
  have hs : ((0 : BitVec 32) ||| BitVec.ofNat 32 (c / 2 ^ 16) <<< 16 |||
      BitVec.ofNat 32 (c / 2 ^ 8 % 2 ^ 8) <<< 8 ||| BitVec.ofNat 32 (c % 2 ^ 8)).toNat = c := by
    simp only [BitVec.toNat_or, BitVec.toNat_shiftLeft, BitVec.toNat_ofNat, Nat.shiftLeft_eq]
    rw [show (0 : BitVec 32).toNat = 0 from rfl, Nat.zero_or,
      show c / 2 ^ 16 % 2 ^ 32 * 2 ^ 16 % 2 ^ 32 = 2 ^ 16 * (c / 2 ^ 16) by omega,
      show c / 2 ^ 8 % 2 ^ 8 % 2 ^ 32 * 2 ^ 8 % 2 ^ 32 = 2 ^ 8 * (c / 2 ^ 8 % 2 ^ 8) by omega,
      show c % 2 ^ 8 % 2 ^ 32 = c % 2 ^ 8 by omega, h4, h5]
  generalize hx : ((0 : BitVec 32) ||| BitVec.ofNat 32 (c / 2 ^ 16) <<< 16 |||
      BitVec.ofNat 32 (c / 2 ^ 8 % 2 ^ 8) <<< 8 ||| BitVec.ofNat 32 (c % 2 ^ 8)) = x at hs
  -- bit 20 of the field is clear, so the arithmetic shift brings back zeros
  have hmsb : (x <<< 11).msb = false := by
    rw [BitVec.msb_eq_decide, BitVec.toNat_shiftLeft, hs, Nat.shiftLeft_eq]
    simp only [decide_eq_false_iff_not]; omega
  have hr : ((x <<< 11).sshiftRight 11).toNat = c := by
    rw [BitVec.sshiftRight_eq_of_msb_false hmsb, BitVec.toNat_ushiftRight, BitVec.toNat_shiftLeft, hs,
      Nat.shiftLeft_eq, Nat.shiftRight_eq_div_pow]
    omega
  have hz : (x <<< 11).sshiftRight 11 = 0 ↔ c = 0 := by
    rw [BitVec.toNat_eq, hr]; rfl
  simp only [gserializedGetSrid, e0, e1, e2, hx]
  by_cases hc0 : c = 0
  · simp [hz.mpr hc0, hc0]
  · rw [if_neg (mt hz.mp hc0), if_neg hc0, BitVec.toInt_eq_toNat_cond, hr, if_pos (by omega)]

section
variable (L : SridLimits)

theorem gserializedSetSrid_eq (srid : Int) :
    gserializedSetSrid L srid = [UInt8.ofNat ((clampSrid L srid).toNat / 2 ^ 16 % 2 ^ 5),
      UInt8.ofNat ((clampSrid L srid).toNat / 2 ^ 8 % 2 ^ 8), UInt8.ofNat ((clampSrid L srid).toNat % 2 ^ 8)] := by
  have h0 := clampSrid_nonneg L srid
  have hlt := clampSrid_lt L srid
  have hc : ((if clampSrid L srid = sridUnknown then 0 else clampSrid L srid) : Int) =
      ((clampSrid L srid).toNat : Int) := by
    split_ifs with h
    · rw [h]; rfl
    · omega
  rw [gserializedSetSrid]
  simp only [hc]
  exact srid_bytes _ (by omega)

/-- Reading back the three bytes `gserialized_set_srid` wrote gives the clamped identifier. -/
theorem gserializedGetSrid_of_setSrid (srid : Int) :
    ∃ srid0 srid1 srid2, gserializedSetSrid L srid = [srid0, srid1, srid2] ∧
      gserializedGetSrid srid0 srid1 srid2 = clampSrid L srid := by
  have h0 := clampSrid_nonneg L srid
  have hget := getSrid_of_bytes (clampSrid L srid).toNat (by have := clampSrid_lt L srid; omega)
  refine ⟨_, _, _, gserializedSetSrid_eq L srid, ?_⟩
  rw [hget, Int.toNat_of_nonneg h0]
  split_ifs with h
  · show (0 : Int) = _; omega
  · rfl

/-- Writing any identifier and reading it back gives its clamped value, which is
unknown or in `[1, SRID_MAXIMUM]` and which clamping leaves alone, so that a
decoded identifier re-encodes to the same three bytes. -/
theorem gserializedGetSrid_setSrid (srid : Int) :
    (∃ srid0 srid1 srid2, gserializedSetSrid L srid = [srid0, srid1, srid2] ∧
      gserializedGetSrid srid0 srid1 srid2 = clampSrid L srid) ∧
    (clampSrid L srid = sridUnknown ∨ 1 ≤ clampSrid L srid ∧ clampSrid L srid ≤ L.sridMaximum) ∧
    clampSrid L (clampSrid L srid) = clampSrid L srid ∧
    gserializedSetSrid L (clampSrid L srid) = gserializedSetSrid L srid :=
  ⟨gserializedGetSrid_of_setSrid L srid, clampSrid_range L srid, clampSrid_clampSrid L srid, by
    rw [gserializedSetSrid_eq, gserializedSetSrid_eq, clampSrid_clampSrid]⟩

end

end GSerialized
