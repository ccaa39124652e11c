import Mathlib.Data.List.Basic
import Mathlib.Algebra.Group.Int
import Mathlib.Algebra.Order.Ring.Nat

/-! Byte buffers. A serialized record is a list of bytes; every integer and
float field is written in host byte order, which this model fixes as
little-endian. A read names an offset from the start of the buffer and fails,
rather than returning memory the buffer does not hold, when it would pass the
end. -/
namespace GSerialized

/-- The `width` low-order bytes of `n`, least significant first: what `memcpy`
writes for an unsigned field of that width. -/
def leBytes : Nat → Nat → List UInt8
  | 0, _ => []
  | width + 1, n => UInt8.ofNat n :: leBytes width (n / 256)

def ofLe : List UInt8 → Nat
  | [] => 0
  | b :: bs => b.toNat + 256 * ofLe bs

def le32 (n : Nat) : List UInt8 := leBytes 4 n
def le64 (n : Nat) : List UInt8 := leBytes 8 n

@[simp] theorem length_leBytes (width n : Nat) : (leBytes width n).length = width := by
  induction width generalizing n with
  | zero => rfl
  | succ width ih => simp [leBytes, ih]

@[simp] theorem length_le32 (n : Nat) : (le32 n).length = 4 := length_leBytes 4 n
@[simp] theorem length_le64 (n : Nat) : (le64 n).length = 8 := length_leBytes 8 n

theorem ofLe_leBytes (width n : Nat) : ofLe (leBytes width n) = n % 256 ^ width := by
  induction width generalizing n with
  | zero => simp [leBytes, ofLe, Nat.mod_one]
  | succ width ih =>
    have hb : (UInt8.ofNat n).toNat = n % 256 := rfl
    simp only [leBytes, ofLe, hb, ih, Nat.pow_succ', Nat.mod_mul]

theorem leBytes_ofLe (bs : List UInt8) : leBytes bs.length (ofLe bs) = bs := by
  induction bs with
  | nil => rfl
  | cons b bs ih =>
    have hlt : b.toNat < 256 := b.toNat_lt_size
    have hlo : UInt8.ofNat (b.toNat + 256 * ofLe bs) = b :=
      UInt8.toNat.inj (by show (b.toNat + 256 * ofLe bs) % 256 = b.toNat; omega)
    have hhi : (b.toNat + 256 * ofLe bs) / 256 = ofLe bs := by omega
    simp only [List.length_cons, leBytes, ofLe, hlo, hhi, ih]

theorem ofLe_lt (bs : List UInt8) : ofLe bs < 256 ^ bs.length := by
  induction bs with
  | nil => simp [ofLe]
  | cons b bs ih =>
    have hlt : b.toNat < 256 := b.toNat_lt_size
    simp only [ofLe, List.length_cons, Nat.pow_succ]
    have := Nat.mul_le_mul_left 256 (Nat.succ_le_of_lt ih)
    omega

@[simp] theorem ofLe_le32 (n : Nat) : ofLe (le32 n) = n % 2 ^ 32 := ofLe_leBytes 4 n

def readBytes (buf : List UInt8) (off len : Nat) : Option (List UInt8) :=
  if off + len ≤ buf.length then some ((buf.drop off).take len) else none

/-- `gserialized_get_uint32_t`, and every other four-byte read. -/
def readU32 (buf : List UInt8) (off : Nat) : Option Nat :=
  (readBytes buf off 4).map ofLe

/-- The buffer holds `bytes` from offset `off` on. -/
def HoldsAt (buf : List UInt8) (off : Nat) (bytes : List UInt8) : Prop :=
  off ≤ buf.length ∧ bytes <+: buf.drop off

theorem HoldsAt.le_length {buf : List UInt8} {off : Nat} {bytes : List UInt8}
    (h : HoldsAt buf off bytes) : off + bytes.length ≤ buf.length := by
  have := h.2.length_le
  rw [List.length_drop] at this
  have := h.1
  omega

theorem holdsAt_append {buf : List UInt8} {off : Nat} {a b : List UInt8} :
    HoldsAt buf off (a ++ b) ↔ HoldsAt buf off a ∧ HoldsAt buf (off + a.length) b := by
  constructor
  · intro h
    have hl := h.le_length
    obtain ⟨t, ht⟩ := h.2
    refine ⟨⟨h.1, b ++ t, by rw [← ht, List.append_assoc]⟩, by simp at hl; omega, ?_⟩
    rw [← List.drop_drop, ← ht, List.append_assoc, List.drop_left]
    exact List.prefix_append _ _
  · rintro ⟨⟨h0, t, ht⟩, _, u, hu⟩
    rw [← List.drop_drop, ← ht, List.drop_left] at hu
    exact ⟨h0, u, by rw [List.append_assoc, hu, ht]⟩

theorem holdsAt_window (pre bytes post : List UInt8) :
    HoldsAt (pre ++ bytes ++ post) pre.length bytes :=
  ⟨by simp, by simp [List.append_assoc]⟩

theorem HoldsAt.take_drop {buf : List UInt8} {off : Nat} {bytes : List UInt8}
    (h : HoldsAt buf off bytes) : (buf.drop off).take bytes.length = bytes :=
  (List.prefix_iff_eq_take.mp h.2).symm

theorem HoldsAt.sub {buf : List UInt8} {off : Nat} {bytes : List UInt8} (h : HoldsAt buf off bytes)
    (k len : Nat) (hk : k + len ≤ bytes.length) : HoldsAt buf (off + k) ((bytes.drop k).take len) := by
  rw [← List.take_append_drop k bytes, holdsAt_append, List.length_take, Nat.min_eq_left (by omega)] at h
  rw [← List.take_append_drop len (bytes.drop k), holdsAt_append] at h
  exact h.2.1

theorem readBytes_of_holdsAt {buf : List UInt8} {off : Nat} {bytes : List UInt8}
    (h : HoldsAt buf off bytes) : readBytes buf off bytes.length = some bytes := by
  rw [readBytes, if_pos h.le_length, h.take_drop]

theorem readU32_of_holdsAt {buf : List UInt8} {off n : Nat} (h : HoldsAt buf off (le32 n))
    (hn : n < 2 ^ 32) : readU32 buf off = some n := by
  rw [readU32, ← length_le32 n, readBytes_of_holdsAt h, Option.map_some', ofLe_le32,
    Nat.mod_eq_of_lt hn]

end GSerialized
