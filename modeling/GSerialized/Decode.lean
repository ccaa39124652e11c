import GSerialized.Encode

/-! The deserializer: `lwgeom_from_gserialized_buffer` and its per-kind readers,
`gserialized_read_gbox_p`, and `lwgeom_from_gserialized`. The readers trust
the record: no read is checked against its size. A read past the end of the
buffer is `readPastEnd` here, where C would read whatever memory follows. -/
namespace GSerialized

/-- `gserialized_get_uint32_t` at a byte offset of the buffer. -/
def gserializedGetUint32T (buf : List UInt8) (off : Nat) : Except LwError UInt32 :=
  match readU32 buf off with
  | some n => .ok (UInt32.ofNat n)
  | none => .error (.readPastEnd off)

def readU8 (buf : List UInt8) (off : Nat) : Except LwError UInt8 :=
  match buf.get? off with
  | some b => .ok b
  | none => .error (.readPastEnd off)

/-- Modelled from the spec: `ptarray_construct_reference_data`, an array over
`npoints` points of the buffer at `off`, flagged `gflags(hasz, hasm, 0)`. The
bytes stay where they are; an array reaching past the buffer is refused. -/
def ptarrayConstructReferenceData (buf : List UInt8) (hasz hasm : Nat) (npoints : UInt32)
    (off : Nat) : Except LwError PointArray :=
  if h : off + npoints.toNat * ptarrayPointSize (gflags hasz hasm) ≤ buf.length then
    .ok ⟨gflags hasz hasm, npoints.toNat,
      (buf.drop off).take (npoints.toNat * ptarrayPointSize (gflags hasz hasm)),
      npoints.toNat_lt_size, by simp only [List.length_take, List.length_drop]; omega⟩
  else .error (.readPastEnd off)

/-- Modelled from the spec: `ptarray_construct(hasz, hasm, 0)`, an empty array. -/
def ptarrayConstructEmpty (hasz hasm : Nat) : PointArray :=
  ⟨gflags hasz hasm, 0, [], Nat.two_pow_pos 32, (Nat.zero_mul _).symm⟩

/-- `lwpoint_from_gserialized_buffer`: it views one point whatever the count,
and steps over `npoints` of them, `npoints * ndims` being a `uint32_t`. -/
def lwpointFromGserializedBuffer (buf : List UInt8) (off : Nat) (gFlags : UInt8) :
    Except LwError (Lwgeom × Nat) := do
  let npoints ← gserializedGetUint32T buf (off + 4)
  let point ← (if npoints > 0 then
      ptarrayConstructReferenceData buf (flagsGetZ gFlags) (flagsGetM gFlags) 1 (off + 8)
    else pure (ptarrayConstructEmpty (flagsGetZ gFlags) (flagsGetM gFlags)))
  return (.point gFlags none sridUnknown point, 8 + npoints.toNat * flagsNdims gFlags % 2 ^ 32 * 8)

/-- The readers of the other one-array kinds: type, count, and a view of
`npoints` points. -/
def pointListFromGserializedBuffer (mk : UInt8 → Option Gbox → Int → PointArray → Lwgeom)
    (buf : List UInt8) (off : Nat) (gFlags : UInt8) : Except LwError (Lwgeom × Nat) := do
  let npoints ← gserializedGetUint32T buf (off + 4)
  let points ← (if npoints > 0 then
      ptarrayConstructReferenceData buf (flagsGetZ gFlags) (flagsGetM gFlags) npoints (off + 8)
    else pure (ptarrayConstructEmpty (flagsGetZ gFlags) (flagsGetM gFlags)))
  return (mk gFlags none sridUnknown points, 8 + flagsNdims gFlags * npoints.toNat % 2 ^ 32 * 8)

def lwlineFromGserializedBuffer (buf : List UInt8) (off : Nat) (gFlags : UInt8) :
    Except LwError (Lwgeom × Nat) :=
  pointListFromGserializedBuffer .line buf off gFlags

def lwtriangleFromGserializedBuffer (buf : List UInt8) (off : Nat) (gFlags : UInt8) :
    Except LwError (Lwgeom × Nat) :=
  pointListFromGserializedBuffer .triangle buf off gFlags

def lwcircstringFromGserializedBuffer (buf : List UInt8) (off : Nat) (gFlags : UInt8) :
    Except LwError (Lwgeom × Nat) :=
  pointListFromGserializedBuffer .circString buf off gFlags

/-- The ring loop of `lwpoly_from_gserialized_buffer`: counts are read from
`dptr` on and ordinates viewed from `optr` on; it returns the rings and the
end of the last ring's ordinates. -/
def lwpolyRings (buf : List UInt8) (gFlags : UInt8) :
    Nat → Nat → Nat → Except LwError (List PointArray × Nat)
  | 0, _, optr => .ok ([], optr)
  | k + 1, dptr, optr => do
    let npoints ← gserializedGetUint32T buf dptr
    let ring ← ptarrayConstructReferenceData buf (flagsGetZ gFlags) (flagsGetM gFlags) npoints optr
    let (rings, optr) ←
      lwpolyRings buf gFlags k (dptr + 4) (optr + 8 * flagsNdims gFlags * npoints.toNat)
    return (ring :: rings, optr)

/-- Where a polygon's ordinates start: past the counts, `nrings * 4` in a
`uint32_t`, and the padding word. -/
def lwpolyOrdinateStart (off : Nat) (nrings : Nat) : Nat :=
  off + 8 + if nrings > 0 then nrings * 4 % 2 ^ 32 + (if nrings % 2 = 1 then 4 else 0) else 0

def lwpolyFromGserializedBuffer (buf : List UInt8) (off : Nat) (gFlags : UInt8) :
    Except LwError (Lwgeom × Nat) := do
  let nrings ← gserializedGetUint32T buf (off + 4)
  let (rings, optr) ←
    lwpolyRings buf gFlags nrings.toNat (off + 8) (lwpolyOrdinateStart off nrings.toNat)
  return (.polygon gFlags none sridUnknown rings, optr - off)

/-- The children loop of `lwcollection_from_gserialized_buffer`: each child's
type word is checked against the collection's before the child is read. -/
def lwcollectionChildren (allowsSubtype : Nat → Nat → Bool) (buf : List UInt8) (type : UInt32)
    (decode : Nat → Except LwError (Lwgeom × Nat)) :
    Nat → Nat → Except LwError (List Lwgeom × Nat)
  | 0, dptr => .ok ([], dptr)
  | k + 1, dptr => do
    let subtype ← gserializedGetUint32T buf dptr
    if !allowsSubtype type.toNat subtype.toNat then
      throw (.invalidSubtype subtype.toNat type.toNat)
    let (geom, subsize) ← decode dptr
    let (geoms, dptr) ← lwcollectionChildren allowsSubtype buf type decode k (dptr + subsize)
    return (geom :: geoms, dptr)

/-- `lwcollection_from_gserialized_buffer`: children are read without the box bit. -/
def lwcollectionFromGserializedBuffer (allowsSubtype : Nat → Nat → Bool) (buf : List UInt8)
    (decode : Nat → UInt8 → Except LwError (Lwgeom × Nat)) (off : Nat) (gFlags : UInt8) :
    Except LwError (Lwgeom × Nat) := do
  let type ← gserializedGetUint32T buf off
  let ngeoms ← gserializedGetUint32T buf (off + 4)
  let (geoms, dptr) ← lwcollectionChildren allowsSubtype buf type
    (decode · (flagsSetBbox gFlags false)) ngeoms.toNat (off + 8)
  return (.collection type.toNat gFlags none sridUnknown geoms, dptr - off)

/-- `lwgeom_from_gserialized_buffer`: the geometry at `off` and the bytes it
spans (`g_size`). The fuel bounds the nesting; each level spans eight bytes
at least, so a buffer's length in fuel never runs out. -/
def lwgeomFromGserializedBuffer (allowsSubtype : Nat → Nat → Bool) (buf : List UInt8) :
    Nat → Nat → UInt8 → Except LwError (Lwgeom × Nat)
  | 0, off, _ => .error (.readPastEnd off)
  | fuel + 1, off, gFlags => do
    let type ← gserializedGetUint32T buf off
    let t := type.toNat
    if t = pointType then lwpointFromGserializedBuffer buf off gFlags
    else if t = lineType then lwlineFromGserializedBuffer buf off gFlags
    else if t = circStringType then lwcircstringFromGserializedBuffer buf off gFlags
    else if t = polygonType then lwpolyFromGserializedBuffer buf off gFlags
    else if t = triangleType then lwtriangleFromGserializedBuffer buf off gFlags
    else if isCollectionType t then
      lwcollectionFromGserializedBuffer allowsSubtype buf
        (lwgeomFromGserializedBuffer allowsSubtype buf fuel) off gFlags
    else throw (.unknownGeometryType t)

/-- Modelled from the spec: `SIZE_GET`, the record length the size word holds
above its two low bits. -/
def sizeGet (size : Nat) : Nat := size >>> 2 &&& 0x3FFFFFFF

def gserializedHeaderSize (flags : UInt8) : Nat :=
  8 + if flagsGetBbox flags = 1 then gboxSerializedSize flags else 0

/-- `gserialized_get_type`: the word after the header. -/
def gserializedGetType (g : List UInt8) : Except LwError UInt32 := do
  let flags ← readU8 g 7
  gserializedGetUint32T g (gserializedHeaderSize flags)

def readBoxFloat (g : List UInt8) (off : Nat) : Except LwError UInt64 := do
  let f ← gserializedGetUint32T g off
  return floatToDouble f

/-- `gserialized_read_gbox_p`: the stored box, laid out by the record's flags;
the fields those flags do not name keep the caller's values. -/
def gserializedReadGboxP (g : List UInt8) (gbox : Gbox) : Except LwError (Option Gbox) := do
  let flags ← readU8 g 7
  if flagsGetBbox flags = 0 then pure none else
  let xmin ← readBoxFloat g 8
  let xmax ← readBoxFloat g 12
  let ymin ← readBoxFloat g 16
  let ymax ← readBoxFloat g 20
  let gbox := { gbox with flags, xmin, xmax, ymin, ymax }
  if flagsGetGeodetic flags = 1 then
    let zmin ← readBoxFloat g 24
    let zmax ← readBoxFloat g 28
    pure (some { gbox with zmin, zmax })
  else
    let (gbox, i) ← (if flagsGetZ flags = 1 then do
        let zmin ← readBoxFloat g 24
        let zmax ← readBoxFloat g 28
        pure ({ gbox with zmin, zmax }, 32)
      else pure (gbox, 24))
    if flagsGetM flags = 1 then
      let mmin ← readBoxFloat g i
      let mmax ← readBoxFloat g (i + 4)
      pure (some { gbox with mmin, mmax })
    else pure (some gbox)

/-- A `GBOX` local before anything is written to it. The model starts from
zeros; no caller reads a field that its flags leave unwritten. -/
def gboxInit : Gbox := ⟨0, 0, 0, 0, 0, 0, 0, 0, 0⟩

/-- `lwgeom_from_gserialized`. The root takes the record's type and flags, the
stored box or, when the geometry needs one, a calculated box, and the SRID. -/
def lwgeomFromGserialized (c : Collaborators) (g : List UInt8) : Except LwError Lwgeom := do
  let srid0 ← readU8 g 4
  let srid1 ← readU8 g 5
  let srid2 ← readU8 g 6
  let gSrid := gserializedGetSrid srid0 srid1 srid2
  let gFlags ← readU8 g 7
  let gType ← gserializedGetType g
  let (lwgeom, _) ← lwgeomFromGserializedBuffer c.allowsSubtype g g.length
    (gserializedHeaderSize gFlags) gFlags
  let lwgeom := (lwgeom.setType gType.toNat).setFlags gFlags
  let box ← gserializedReadGboxP g gboxInit
  let bbox := match box with
    | some b => some b
    | none => if c.needsBbox lwgeom then c.calculateGbox lwgeom else none
  return (lwgeom.setBbox bbox).setSrid gSrid

/-- Sixteen bytes whose size word says sixteen and whose LineString claims a
point the record does not hold. -/
def truncatedLine : List UInt8 := le32 (16 <<< 2) ++ [0, 0, 0, 0] ++ le32 lineType ++ le32 1

/-- The reader takes the count at its word: on `truncatedLine` it views the
sixteen bytes of a point past the record's end. -/
theorem lwgeomFromGserialized_trustsCounts :
    ¬ ∀ (c : Collaborators) (r : List UInt8), (readU32 r 0).map sizeGet = some r.length → 8 ≤ r.length →
      ∀ off, lwgeomFromGserialized c r ≠ .error (.readPastEnd off) := fun h =>
  h ⟨fun _ => false, fun _ => false, fun _ => none, fun _ _ => true, fun a _ _ => (a, a)⟩ truncatedLine rfl
    (by decide) 16 rfl

end GSerialized
