import Mathlib.Data.Nat.Defs
import Mathlib.Algebra.Group.Int
import Mathlib.Algebra.Order.Ring.Nat

/-! `uint32_interleave_2`, the Morton code `gserialized_cmp` sorts box centres
by. Each of the five rounds of its loop shifts a word left by `s`, ors it in and
masks: a round with shift `s` leaves bit `j` of the input at `2 * j - j % s`, so
after the round with shift 1 bit `j` sits at `2 * j`. -/
namespace GSerialized

/-- The masks `B` of `uint32_interleave_2`. -/
def interleaveB (i : Nat) : UInt64 :=
  [0x5555555555555555, 0x3333333333333333, 0x0F0F0F0F0F0F0F0F, 0x00FF00FF00FF00FF,
    0x0000FFFF0000FFFF].getD i 0

/-- The shifts `S` of `uint32_interleave_2`. -/
def interleaveS (i : Nat) : UInt64 := [1, 2, 4, 8, 16].getD i 0

/-- `uint32_interleave_2` as built (`HAVE_PDEP` is 0): the bits of `u1` spread
to the even positions and those of `u2` to the odd ones. -/
def uint32Interleave2 (u1 u2 : UInt32) : UInt64 :=
  let (x, y) := [4, 3, 2, 1, 0].foldl (fun (x, y) i =>
    ((x ||| (x <<< interleaveS i)) &&& interleaveB i, (y ||| (y <<< interleaveS i)) &&& interleaveB i))
    (u1.toUInt64, u2.toUInt64)
  x ||| (y <<< 1)

def interleaveRound (i : Nat) (x : UInt64) : UInt64 :=
  (x ||| (x <<< interleaveS i)) &&& interleaveB i

def interleaveSpread (u : UInt32) : UInt64 :=
  interleaveRound 0 (interleaveRound 1 (interleaveRound 2 (interleaveRound 3
    (interleaveRound 4 u.toUInt64))))

theorem uint32Interleave2_eq (u1 u2 : UInt32) :
    uint32Interleave2 u1 u2 = interleaveSpread u1 ||| (interleaveSpread u2 <<< 1) := rfl

/-! ### The bits of one round -/

private theorem getLsbD_toBitVec (x : UInt64) (q : Nat) : x.toBitVec.getLsbD q = x.toNat.testBit q :=
  rfl

private theorem toNat_toBitVec (x : UInt64) : x.toBitVec.toNat = x.toNat := rfl

theorem testBit_interleaveB : ∀ i < 5, ∀ p < 64,
    (interleaveB i).toNat.testBit p = decide (p / 2 ^ i % 2 = 0) := by
  decide

theorem toNat_interleaveS_mod : ∀ i < 5, (UInt64.mod (interleaveS i) 64).toNat = 2 ^ i := by
  decide

theorem testBit_toNat_ge (x : UInt64) {p : Nat} (hp : 64 ≤ p) : x.toNat.testBit p = false :=
  BitVec.getLsbD_ge _ _ hp

theorem testBit_interleaveRound {i : Nat} (hi : i < 5) (x : UInt64) (p : Nat) :
    (interleaveRound i x).toNat.testBit p =
      (decide (p < 64 ∧ p / 2 ^ i % 2 = 0) &&
        (x.toNat.testBit p || (decide (2 ^ i ≤ p) && x.toNat.testBit (p - 2 ^ i)))) := by
  show BitVec.getLsbD ((x.toBitVec ||| x.toBitVec <<< (UInt64.mod (interleaveS i) 64).toBitVec)
    &&& (interleaveB i).toBitVec) p = _
  rw [BitVec.getLsbD_and, BitVec.getLsbD_or, BitVec.getLsbD_shiftLeft']
  simp only [getLsbD_toBitVec, toNat_toBitVec, toNat_interleaveS_mod i hi]
  by_cases hp : p < 64
  · have hle : decide (2 ^ i ≤ p) = !decide (p < 2 ^ i) := by
      by_cases h : p < 2 ^ i <;> simp [h]; omega
    rw [testBit_interleaveB i hi p hp, hle]
    simp [hp, Bool.and_comm]
  · rw [testBit_toNat_ge _ (by omega)]
    simp [hp]

/-! ### Where the rounds leave the bits -/

/-- Bit `p` of a word after the round with shift `s`, as a bit of the input
`u`: bit `j = p / (2 * s) * s + p % s` of `u` when `p / s` is even, clear
otherwise. It inverts `p = 2 * j - j % s`. -/
def spreadBit (s u p : Nat) : Bool :=
  decide (p < 64 ∧ p / s % 2 = 0) && u.testBit (p / (2 * s) * s + p % s)

private theorem spread_index_even : ∀ i : Nat, i < 5 → ∀ p : Nat, p < 64 → p / 2 ^ i % 2 = 0 →
    p / (2 * 2 ^ i) % 2 = 0 →
    p / (2 * (2 * 2 ^ i)) * (2 * 2 ^ i) + p % (2 * 2 ^ i) = p / (2 * 2 ^ i) * 2 ^ i + p % 2 ^ i ∧
      (2 ^ i ≤ p → (p - 2 ^ i) / (2 * 2 ^ i) % 2 = 1) := by
  decide

private theorem spread_index_odd : ∀ i : Nat, i < 5 → ∀ p : Nat, p < 64 → p / 2 ^ i % 2 = 0 →
    p / (2 * 2 ^ i) % 2 = 1 →
    2 ^ i ≤ p ∧ (p - 2 ^ i) / (2 * 2 ^ i) % 2 = 0 ∧
      (p - 2 ^ i) / (2 * (2 * 2 ^ i)) * (2 * 2 ^ i) + (p - 2 ^ i) % (2 * 2 ^ i) =
        p / (2 * 2 ^ i) * 2 ^ i + p % 2 ^ i := by
  decide

theorem testBit_interleaveRound_spread {i : Nat} (hi : i < 5) {u : Nat} {x : UInt64}
    (hx : ∀ p, x.toNat.testBit p = spreadBit (2 * 2 ^ i) u p) (p : Nat) :
    (interleaveRound i x).toNat.testBit p = spreadBit (2 ^ i) u p := by
  rw [testBit_interleaveRound hi, hx, hx]
  unfold spreadBit
  by_cases h : p < 64 ∧ p / 2 ^ i % 2 = 0
  · rcases Nat.mod_two_eq_zero_or_one (p / (2 * 2 ^ i)) with hq | hq
    · obtain ⟨he, hs⟩ := spread_index_even i hi p h.1 h.2 hq
      by_cases hle : 2 ^ i ≤ p
      · simp [h, hq, he, hle, hs hle]
      · simp [h, hq, he, hle]
    · obtain ⟨hle, hs, he⟩ := spread_index_odd i hi p h.1 h.2 hq
      simp [h, hq, hle, hs, he, show p - 2 ^ i < 64 by omega]
  · simp [h]

private theorem toNat_lt_two_pow (u : UInt32) {p : Nat} (hp : 32 ≤ p) : u.toNat < 2 ^ p := calc
  u.toNat < 2 ^ 32 := u.toNat_lt_size
  _ ≤ 2 ^ p := Nat.pow_le_pow_right (by decide) hp

theorem testBit_toUInt64_spread (u : UInt32) (p : Nat) :
    u.toUInt64.toNat.testBit p = spreadBit 32 u.toNat p := by
  show u.toNat.testBit p = _
  unfold spreadBit
  by_cases hp : p < 32
  · simp [hp, show p < 64 by omega, Nat.div_eq_of_lt (show p < 64 by omega), Nat.mod_eq_of_lt hp,
      Nat.div_eq_of_lt hp]
  · have hq : ¬ (p < 64 ∧ p / 32 % 2 = 0) := by omega
    simp [Nat.testBit_lt_two_pow (toNat_lt_two_pow u (show 32 ≤ p by omega)), hq]

theorem testBit_interleaveSpread (u : UInt32) (p : Nat) :
    (interleaveSpread u).toNat.testBit p = spreadBit 1 u.toNat p :=
  have h4 := testBit_interleaveRound_spread (i := 4) (by decide) (testBit_toUInt64_spread u)
  have h3 := testBit_interleaveRound_spread (i := 3) (by decide) h4
  have h2 := testBit_interleaveRound_spread (i := 2) (by decide) h3
  have h1 := testBit_interleaveRound_spread (i := 1) (by decide) h2
  testBit_interleaveRound_spread (i := 0) (by decide) h1 p

theorem spreadBit_one (u p : Nat) :
    spreadBit 1 u p = (decide (p < 64 ∧ p % 2 = 0) && u.testBit (p / 2)) := by
  simp [spreadBit, Nat.mod_one]

theorem testBit_uint32Interleave2 (u1 u2 : UInt32) (p : Nat) :
    (uint32Interleave2 u1 u2).toNat.testBit p =
      (spreadBit 1 u1.toNat p ||
        (decide (p < 64) && !decide (p < 1) && spreadBit 1 u2.toNat (p - 1))) := by
  rw [uint32Interleave2_eq]
  show BitVec.getLsbD ((interleaveSpread u1).toBitVec |||
    (interleaveSpread u2).toBitVec <<< (UInt64.mod 1 64).toBitVec) p = _
  rw [BitVec.getLsbD_or, BitVec.getLsbD_shiftLeft']
  simp only [getLsbD_toBitVec, testBit_interleaveSpread]
  rfl

theorem testBit_uint32Interleave2_even (u1 u2 : UInt32) (i : Nat) :
    (uint32Interleave2 u1 u2).toNat.testBit (2 * i) = (decide (i < 32) && u1.toNat.testBit i) := by
  rw [testBit_uint32Interleave2, spreadBit_one, spreadBit_one]
  have h : ¬ (2 * i - 1 < 64 ∧ (2 * i - 1) % 2 = 0) ∨ 2 * i < 1 := by omega
  rcases h with h | h <;> simp [h, Nat.mul_mod_right, show 2 * i < 64 ↔ i < 32 by omega]

theorem testBit_uint32Interleave2_odd (u1 u2 : UInt32) (i : Nat) :
    (uint32Interleave2 u1 u2).toNat.testBit (2 * i + 1) =
      (decide (i < 32) && u2.toNat.testBit i) := by
  rw [testBit_uint32Interleave2, spreadBit_one, spreadBit_one]
  simp [Nat.add_mod, show 2 * i + 1 < 64 ↔ i < 32 by omega, show 2 * i < 64 ↔ i < 32 by omega,
    show (2 * i + 1) / 2 = i by omega]

/-! ### The Morton code -/

/-- The low `k` bits of `a` moved to the even places: bit `i` to bit `2 * i`. -/
def dilate : Nat → Nat → Nat
  | 0, _ => 0
  | k + 1, a => a % 2 + 4 * dilate k (a / 2)

/-- The Morton code of `a` and `b` over `k` bits: `a`'s bits at the even
places, `b`'s at the odd ones. -/
def mortonCode (k a b : Nat) : Nat := dilate k a + 2 * dilate k b

theorem mortonCode_succ (k a b : Nat) :
    mortonCode (k + 1) a b = a % 2 + 2 * (b % 2) + 4 * mortonCode k (a / 2) (b / 2) := by
  simp only [mortonCode, dilate]; omega

theorem testBit_mortonCode (k a b i : Nat) :
    (mortonCode k a b).testBit (2 * i) = (decide (i < k) && a.testBit i) ∧
      (mortonCode k a b).testBit (2 * i + 1) = (decide (i < k) && b.testBit i) := by
  induction k generalizing a b i with
  | zero => simp [mortonCode, dilate]
  | succ k ih =>
    rw [mortonCode_succ]
    cases i with
    | zero =>
      simp only [Nat.mul_zero, Nat.zero_add, Nat.testBit_zero, Nat.testBit_add_one, Nat.zero_lt_succ,
        decide_True, Bool.true_and]
      constructor <;> exact decide_eq_decide.mpr (by omega)
    | succ i =>
      have h4 : (a % 2 + 2 * (b % 2) + 4 * mortonCode k (a / 2) (b / 2)) / 2 / 2 =
          mortonCode k (a / 2) (b / 2) := by omega
      have := ih (a / 2) (b / 2) i
      simp only [Nat.testBit_add_one] at this
      simp only [show 2 * (i + 1) = 2 * i + 1 + 1 by omega, Nat.testBit_add_one, h4, this,
        Nat.add_lt_add_iff_right, and_self]

theorem dilate_lt_dilate {k a a' : Nat} (h : a < a') (h' : a' < 2 ^ k) :
    dilate k a < dilate k a' := by
  induction k generalizing a a' with
  | zero => omega
  | succ k ih =>
    simp only [dilate]
    rw [Nat.pow_succ] at h'
    rcases Nat.lt_or_ge (a / 2) (a' / 2) with hq | hq
    · have := ih hq (by omega)
      omega
    · rw [show a' / 2 = a / 2 by omega]
      omega

theorem dilate_le_dilate {k a a' : Nat} (h : a ≤ a') (h' : a' < 2 ^ k) :
    dilate k a ≤ dilate k a' := by
  rcases Nat.lt_or_eq_of_le h with h | rfl
  · exact Nat.le_of_lt (dilate_lt_dilate h h')
  · exact Nat.le_refl _

/-- The loop computes the Morton code of the two words. -/
theorem toNat_uint32Interleave2 (u1 u2 : UInt32) :
    (uint32Interleave2 u1 u2).toNat = mortonCode 32 u1.toNat u2.toNat := by
  refine Nat.eq_of_testBit_eq fun p => ?_
  obtain ⟨i, rfl | rfl⟩ : ∃ i, p = 2 * i ∨ p = 2 * i + 1 := ⟨p / 2, by omega⟩
  · rw [testBit_uint32Interleave2_even, (testBit_mortonCode 32 _ _ i).1]
  · rw [testBit_uint32Interleave2_odd, (testBit_mortonCode 32 _ _ i).2]

private theorem eq_of_testBit_lt_32 {a b : UInt32}
    (h : ∀ i < 32, a.toNat.testBit i = b.toNat.testBit i) : a = b := by
  refine UInt32.toNat.inj (Nat.eq_of_testBit_eq fun i => ?_)
  by_cases hi : i < 32
  · exact h i hi
  · have hi : 32 ≤ i := by omega
    rw [Nat.testBit_lt_two_pow (toNat_lt_two_pow a hi), Nat.testBit_lt_two_pow (toNat_lt_two_pow b hi)]

/-- `uint32_interleave_2` is the Morton interleave: bit `i` of `u1` lands at bit
`2 * i` and bit `i` of `u2` at bit `2 * i + 1`; so the hash is injective and
monotone in each word. -/
theorem uint32Interleave2_isMorton :
    (∀ u1 u2 : UInt32, ∀ i < 32,
      (uint32Interleave2 u1 u2).toNat.testBit (2 * i) = u1.toNat.testBit i ∧
        (uint32Interleave2 u1 u2).toNat.testBit (2 * i + 1) = u2.toNat.testBit i) ∧
    (∀ a b a' b' : UInt32, uint32Interleave2 a b = uint32Interleave2 a' b' → a = a' ∧ b = b') ∧
    (∀ a a' b : UInt32, a ≤ a' → uint32Interleave2 a b ≤ uint32Interleave2 a' b) ∧
    (∀ a b b' : UInt32, b ≤ b' → uint32Interleave2 a b ≤ uint32Interleave2 a b') := by
  have bits (u1 u2 : UInt32) (i : Nat) (hi : i < 32) :
      (uint32Interleave2 u1 u2).toNat.testBit (2 * i) = u1.toNat.testBit i ∧
        (uint32Interleave2 u1 u2).toNat.testBit (2 * i + 1) = u2.toNat.testBit i := by
    simp [testBit_uint32Interleave2_even, testBit_uint32Interleave2_odd, hi]
  refine ⟨bits, fun a b a' b' h => ⟨?_, ?_⟩, fun a a' b h => ?_, fun a b b' h => ?_⟩
  · exact eq_of_testBit_lt_32 fun i hi => by rw [← (bits a b i hi).1, h, (bits a' b' i hi).1]
  · exact eq_of_testBit_lt_32 fun i hi => by rw [← (bits a b i hi).2, h, (bits a' b' i hi).2]
  · show (uint32Interleave2 a b).toNat ≤ (uint32Interleave2 a' b).toNat
    have := dilate_le_dilate (k := 32) (show a.toNat ≤ a'.toNat from h) a'.toNat_lt_size
    rw [toNat_uint32Interleave2, toNat_uint32Interleave2]
    unfold mortonCode; omega
  · show (uint32Interleave2 a b).toNat ≤ (uint32Interleave2 a b').toNat
    have := dilate_le_dilate (k := 32) (show b.toNat ≤ b'.toNat from h) b'.toNat_lt_size
    rw [toNat_uint32Interleave2, toNat_uint32Interleave2]
    unfold mortonCode; omega

/-! ### The `HAVE_PDEP` branch

The other `uint32_interleave_2`, compiled when `HAVE_PDEP` is set, deposits
each word's bits on an alternating mask. Both branches give the same code, so
the build flag cannot change the order `gserialized_cmp` sorts by. -/

/-- `_pdep_u64(src, mask)` over the low `n` bits of the mask (the BMI2 parallel
bit deposit): the low bits of `src`, in order, at the places where the mask
has a one, and zeros elsewhere. -/
def pdepBits : Nat → Nat → Nat → Nat
  | 0, _, _ => 0
  | n + 1, src, mask =>
    if mask % 2 = 1 then src % 2 + 2 * pdepBits n (src / 2) (mask / 2)
    else 2 * pdepBits n src (mask / 2)

def pdepU64 (src mask : UInt64) : UInt64 := UInt64.ofNat (pdepBits 64 src.toNat mask.toNat)

/-- `uint32_interleave_2` of the `HAVE_PDEP` branch. -/
def uint32Interleave2Pdep (u1 u2 : UInt32) : UInt64 :=
  let x := u1.toUInt64
  let y := u2.toUInt64
  let xMask : UInt64 := 0x5555555555555555
  let yMask : UInt64 := 0xAAAAAAAAAAAAAAAA
  pdepU64 x xMask ||| pdepU64 y yMask

/-- The mask with a one at each of the `k` lowest even places. -/
def evenMask : Nat → Nat
  | 0 => 0
  | k + 1 => 1 + 4 * evenMask k

theorem pdepBits_evenMask : ∀ (k src : Nat), pdepBits (2 * k) src (evenMask k) = dilate k src
  | 0, _ => rfl
  | k + 1, src => by
    rw [show 2 * (k + 1) = 2 * k + 1 + 1 by omega, evenMask, pdepBits, if_pos (by omega), pdepBits,
      if_neg (by omega), show (1 + 4 * evenMask k) / 2 / 2 = evenMask k by omega, pdepBits_evenMask k, dilate]
    omega

theorem pdepBits_oddMask : ∀ (k src : Nat), pdepBits (2 * k) src (2 * evenMask k) = 2 * dilate k src
  | 0, _ => rfl
  | k + 1, src => by
    rw [show 2 * (k + 1) = 2 * k + 1 + 1 by omega, evenMask, pdepBits, if_neg (by omega), pdepBits,
      if_pos (by omega), show 2 * (1 + 4 * evenMask k) / 2 / 2 = 2 * evenMask k by omega,
      pdepBits_oddMask k, dilate]
    omega

theorem dilate_zero : ∀ k, dilate k 0 = 0
  | 0 => rfl
  | k + 1 => by rw [dilate, dilate_zero k]

theorem dilate_le_evenMask : ∀ (k a : Nat), dilate k a ≤ evenMask k
  | 0, _ => Nat.le_refl 0
  | k + 1, a => by
    have := dilate_le_evenMask k (a / 2)
    rw [dilate, evenMask]; omega

/-- Where the two deposits put their bits: the bits of `a` at the even places
and those of `b` at the odd ones, which is the Morton code. -/
theorem dilate_or_dilate (k a b : Nat) : dilate k a ||| 2 * dilate k b = mortonCode k a b := by
  have ha := testBit_mortonCode k a 0
  have hb := testBit_mortonCode k 0 b
  simp only [mortonCode, dilate_zero, Nat.mul_zero, Nat.add_zero, Nat.zero_add, Nat.zero_testBit,
    Bool.and_false] at ha hb
  refine Nat.eq_of_testBit_eq fun p => ?_
  obtain ⟨i, rfl | rfl⟩ : ∃ i, p = 2 * i ∨ p = 2 * i + 1 := ⟨p / 2, by omega⟩
  · rw [Nat.testBit_or, (ha i).1, (hb i).1, (testBit_mortonCode k a b i).1, Bool.or_false]
  · rw [Nat.testBit_or, (ha i).2, (hb i).2, (testBit_mortonCode k a b i).2, Bool.false_or]

theorem toNat_pdepU64_even (u : UInt32) : (pdepU64 u.toUInt64 0x5555555555555555).toNat = dilate 32 u.toNat := by
  have hd := dilate_le_evenMask 32 u.toNat
  have hm : evenMask 32 = 0x5555555555555555 := by decide
  show (UInt64.ofNat (pdepBits (2 * 32) u.toNat (evenMask 32))).toNat = _
  rw [pdepBits_evenMask, UInt64.toNat_ofNat_of_lt (by rw [UInt64.size]; omega)]

theorem toNat_pdepU64_odd (u : UInt32) :
    (pdepU64 u.toUInt64 0xAAAAAAAAAAAAAAAA).toNat = 2 * dilate 32 u.toNat := by
  have hd := dilate_le_evenMask 32 u.toNat
  have hm : evenMask 32 = 0x5555555555555555 := by decide
  show (UInt64.ofNat (pdepBits (2 * 32) u.toNat (2 * evenMask 32))).toNat = _
  rw [pdepBits_oddMask, UInt64.toNat_ofNat_of_lt (by rw [UInt64.size]; omega)]

/-- The `HAVE_PDEP` branch computes what the loop computes, on every pair of
words. -/
theorem uint32Interleave2Pdep_eq (u1 u2 : UInt32) : uint32Interleave2Pdep u1 u2 = uint32Interleave2 u1 u2 := by
  apply UInt64.toNat.inj
  show (pdepU64 u1.toUInt64 0x5555555555555555).toBitVec.toNat |||
    (pdepU64 u2.toUInt64 0xAAAAAAAAAAAAAAAA).toBitVec.toNat = _
  rw [toNat_toBitVec, toNat_toBitVec, toNat_pdepU64_even, toNat_pdepU64_odd, toNat_uint32Interleave2,
    dilate_or_dilate]

end GSerialized
