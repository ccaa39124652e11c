import Mathlib.Data.Nat.Defs
import Mathlib.Algebra.Group.Int
import Mathlib.Algebra.Order.Ring.Nat
import Mathlib.Data.Nat.Bitwise

/-! Type numbers, the flag byte and the error reports shared by the serializer,
the deserializer and the peek and compare engine of `g_serialized.c`.
The macros live in `liblwgeom.h`, which is not part of the sources; their bit
layout is the one the specification gives for the serialized flag byte. -/
namespace GSerialized

/-! The type numbers, in the order of `lwgeomTypeName` in `lwutil.c`. -/

def pointType : Nat := 1
def lineType : Nat := 2
def polygonType : Nat := 3
def multiPointType : Nat := 4
def multiLineType : Nat := 5
def multiPolygonType : Nat := 6
def collectionType : Nat := 7
def circStringType : Nat := 8
def compoundType : Nat := 9
def curvePolyType : Nat := 10
def multiCurveType : Nat := 11
def multiSurfaceType : Nat := 12
def polyhedralSurfaceType : Nat := 13
def triangleType : Nat := 14
def tinType : Nat := 15

/-- The ten type numbers that `gserialized_from_any_size`,
`gserialized_from_lwgeom_any` and `lwgeom_from_gserialized_buffer` send to the
collection code. -/
def isCollectionType (type : Nat) : Bool :=
  type = multiPointType || type = multiLineType || type = multiPolygonType ||
    type = collectionType || type = compoundType || type = curvePolyType ||
    type = multiCurveType || type = multiSurfaceType ||
    type = polyhedralSurfaceType || type = tinType

theorem isCollectionType_spec {t : Nat} (h : isCollectionType t) :
    t < 16 ∧ t ≠ pointType ∧ t ≠ lineType ∧ t ≠ circStringType ∧ t ≠ polygonType ∧ t ≠ triangleType := by
  simp only [isCollectionType, multiPointType, multiLineType, multiPolygonType, collectionType,
    compoundType, curvePolyType, multiCurveType, multiSurfaceType, polyhedralSurfaceType, tinType,
    Bool.or_eq_true, decide_eq_true_eq] at h
  simp only [pointType, lineType, circStringType, polygonType, triangleType]
  omega

/-- Modelled from the spec: `lwtype_is_collection`, which
`gserialized_is_empty_recurse` uses, admits the same ten collection kinds. -/
def lwtypeIsCollection (type : Nat) : Bool := isCollectionType type

def lwgeomTypeName : List String :=
  ["Unknown", "Point", "LineString", "Polygon", "MultiPoint", "MultiLineString",
    "MultiPolygon", "GeometryCollection", "CircularString", "CompoundCurve",
    "CurvePolygon", "MultiCurve", "MultiSurface", "PolyhedralSurface", "Triangle", "Tin"]

/-- `lwtype_name`, which reads its argument as a `uint8_t`. -/
def lwtypeName (type : Nat) : String :=
  if type % 256 > 15 then "Invalid type" else lwgeomTypeName.getD (type % 256) ""

/-! The flag byte. Bits, least significant first: Z, M, bbox, geodetic. -/

def flagsGetZ (flags : UInt8) : Nat := (flags &&& 0x01).toNat
def flagsGetM (flags : UInt8) : Nat := ((flags &&& 0x02) >>> 1).toNat
def flagsGetBbox (flags : UInt8) : Nat := ((flags &&& 0x04) >>> 2).toNat
def flagsGetGeodetic (flags : UInt8) : Nat := ((flags &&& 0x08) >>> 3).toNat

def flagsSetBbox (flags : UInt8) (value : Bool) : UInt8 :=
  if value then flags ||| 0x04 else flags &&& 0xFB

def flagsNdims (flags : UInt8) : Nat := 2 + flagsGetZ flags + flagsGetM flags

def flagsGetZm (flags : UInt8) : Nat := flagsGetM flags + flagsGetZ flags * 2

/-- `gflags(hasz, hasm, 0)`: the flags of a point array built by the deserializer. -/
def gflags (hasz hasm : Nat) : UInt8 :=
  (if hasz = 0 then 0 else 0x01) ||| (if hasm = 0 then 0 else 0x02)

/-- Modelled from the spec: `gbox_serialized_size`, 24 bytes for a geodetic box
and otherwise two floats per dimension. -/
def gboxSerializedSize (flags : UInt8) : Nat :=
  if flagsGetGeodetic flags = 1 then 6 * 4 else 2 * flagsNdims flags * 4

/-- Modelled from the spec: `ptarray_point_size`, the bytes of one point. -/
def ptarrayPointSize (flags : UInt8) : Nat := 8 * flagsNdims flags

private theorem and_two_pow_shiftRight (n i : Nat) : (n &&& 2 ^ i) >>> i = (n.testBit i).toNat := by
  rw [Nat.and_two_pow, Nat.shiftRight_eq_div_pow, Nat.mul_div_cancel _ (Nat.two_pow_pos i)]

/-! Each `FLAGS_GET_*` reads one bit of the byte. -/

theorem flagsGetZ_eq (flags : UInt8) : flagsGetZ flags = (flags.toNat.testBit 0).toNat :=
  and_two_pow_shiftRight flags.toNat 0

theorem flagsGetM_eq (flags : UInt8) : flagsGetM flags = (flags.toNat.testBit 1).toNat :=
  and_two_pow_shiftRight flags.toNat 1

theorem flagsGetBbox_eq (flags : UInt8) : flagsGetBbox flags = (flags.toNat.testBit 2).toNat :=
  and_two_pow_shiftRight flags.toNat 2

theorem flagsGetGeodetic_eq (flags : UInt8) : flagsGetGeodetic flags = (flags.toNat.testBit 3).toNat :=
  and_two_pow_shiftRight flags.toNat 3

theorem flagsGetZ_le_one (flags : UInt8) : flagsGetZ flags ≤ 1 := flagsGetZ_eq flags ▸ Bool.toNat_le _

theorem flagsGetM_le_one (flags : UInt8) : flagsGetM flags ≤ 1 := flagsGetM_eq flags ▸ Bool.toNat_le _

theorem flagsGetBbox_le_one (flags : UInt8) : flagsGetBbox flags ≤ 1 := flagsGetBbox_eq flags ▸ Bool.toNat_le _

/-- `FLAGS_SET_BBOX` changes bit 2 only: setting ors in `0x04`, clearing ands
with `0xFB`, and a flag byte has no bit from 8 up. -/
private theorem testBit_setBbox (flags : UInt8) (value : Bool) (i : Nat) :
    (flagsSetBbox flags value).toNat.testBit i = if i = 2 then value else flags.toNat.testBit i := by
  cases value
  · show (flags.toNat &&& 251).testBit i = _
    rw [Nat.testBit_and]
    split
    · subst i; exact Bool.and_false _
    by_cases h8 : i < 8
    · have h251 : ∀ j < 8, j ≠ 2 → Nat.testBit 251 j = true := by decide
      rw [h251 i h8 ‹_›, Bool.and_true]
    · rw [Nat.testBit_lt_two_pow (lt_of_lt_of_le flags.toNat_lt_size (Nat.pow_le_pow_right two_pos (not_lt.mp h8))),
        Bool.false_and]
  · show (flags.toNat ||| 2 ^ 2).testBit i = _
    rw [Nat.testBit_or, Nat.testBit_two_pow]
    split <;> simp_all [eq_comm]

@[simp] theorem flagsGetBbox_setBbox (flags : UInt8) (value : Bool) :
    flagsGetBbox (flagsSetBbox flags value) = if value then 1 else 0 := by
  rw [flagsGetBbox_eq, testBit_setBbox, if_pos rfl]; cases value <;> rfl

@[simp] theorem flagsGetZ_setBbox (flags : UInt8) (value : Bool) :
    flagsGetZ (flagsSetBbox flags value) = flagsGetZ flags := by
  rw [flagsGetZ_eq, flagsGetZ_eq, testBit_setBbox, if_neg (by decide)]

@[simp] theorem flagsGetM_setBbox (flags : UInt8) (value : Bool) :
    flagsGetM (flagsSetBbox flags value) = flagsGetM flags := by
  rw [flagsGetM_eq, flagsGetM_eq, testBit_setBbox, if_neg (by decide)]

@[simp] theorem flagsGetGeodetic_setBbox (flags : UInt8) (value : Bool) :
    flagsGetGeodetic (flagsSetBbox flags value) = flagsGetGeodetic flags := by
  rw [flagsGetGeodetic_eq, flagsGetGeodetic_eq, testBit_setBbox, if_neg (by decide)]

private theorem gflags_bits : ∀ z < 2, ∀ m < 2, flagsGetZ (gflags z m) = z ∧ flagsGetM (gflags z m) = m := by
  decide

@[simp] theorem flagsGetZ_gflags (flags : UInt8) :
    flagsGetZ (gflags (flagsGetZ flags) (flagsGetM flags)) = flagsGetZ flags :=
  (gflags_bits _ (Nat.lt_succ_of_le (flagsGetZ_le_one flags)) _ (Nat.lt_succ_of_le (flagsGetM_le_one flags))).1

@[simp] theorem flagsGetM_gflags (flags : UInt8) :
    flagsGetM (gflags (flagsGetZ flags) (flagsGetM flags)) = flagsGetM flags :=
  (gflags_bits _ (Nat.lt_succ_of_le (flagsGetZ_le_one flags)) _ (Nat.lt_succ_of_le (flagsGetM_le_one flags))).2

@[simp] theorem flagsGetZm_setBbox (flags : UInt8) (value : Bool) :
    flagsGetZm (flagsSetBbox flags value) = flagsGetZm flags := by
  simp only [flagsGetZm, flagsGetZ_setBbox, flagsGetM_setBbox]

theorem zm_eq_iff {a b : UInt8} :
    flagsGetZm a = flagsGetZm b ↔ flagsGetZ a = flagsGetZ b ∧ flagsGetM a = flagsGetM b := by
  have := flagsGetZ_le_one a; have := flagsGetZ_le_one b
  have := flagsGetM_le_one a; have := flagsGetM_le_one b
  unfold flagsGetZm; omega

theorem flagsNdims_eq_of_zm {a b : UInt8} (h : flagsGetZm a = flagsGetZm b) :
    flagsNdims a = flagsNdims b := by
  obtain ⟨hz, hm⟩ := zm_eq_iff.mp h
  simp only [flagsNdims, hz, hm]

theorem flagsNdims_pos (flags : UInt8) : 2 ≤ flagsNdims flags := by
  unfold flagsNdims; omega

theorem flagsNdims_le (flags : UInt8) : flagsNdims flags ≤ 4 := by
  have := flagsGetZ_le_one flags; have := flagsGetM_le_one flags
  unfold flagsNdims; omega

/-- What `lwerror` reports. Every `lwerror` ends the call: the default handler
exits, the database handler unwinds. `readPastEnd` is not an `lwerror`: it
marks a read or a point-array view that reaches past the end of the buffer. -/
inductive LwError where
  | dimensionsMismatch (kind : String)
  | unknownGeometryType (type : Nat)
  | returnSizeMismatch (returned expected : Nat)
  | invalidSubtype (subtype type : Nat)
  | notImplemented (type : Nat)
  | readPastEnd (offset : Nat)
  deriving DecidableEq, Repr

def LwError.message : LwError → String
  | .dimensionsMismatch kind => "Dimensions mismatch in " ++ kind
  | .unknownGeometryType type =>
      "Unknown geometry type: " ++ toString type ++ " - " ++ lwtypeName type
  | .returnSizeMismatch returned expected => "Return size (" ++ toString returned ++
      ") not equal to expected size (" ++ toString expected ++ ")!"
  | .invalidSubtype subtype type => "Invalid subtype (" ++ lwtypeName subtype ++
      ") for collection type (" ++ lwtypeName type ++ ")"
  | .notImplemented type => "gserialized_peek_first_point is currently not implemented for type " ++
      toString type
  | .readPastEnd offset => "read past the end of the buffer at " ++ toString offset

end GSerialized
