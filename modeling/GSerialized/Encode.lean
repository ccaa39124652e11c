import GSerialized.Geometry
import GSerialized.Srid
import GSerialized.Ieee

/-! The serializer: `gserialized_from_lwgeom_size` and its helpers, the
recursive writer `gserialized_from_lwgeom_any`, the box writer
`gserialized_from_gbox`, and `gserialized_from_lwgeom`, which assembles the
record. Sizes are `size_t` sums; the products `npoints * FLAGS_NDIMS` and
`npoints * ptsize` are `uint32_t` and wrap. -/
namespace GSerialized

/-- The size functions of the one-array kinds (`gserialized_from_lwpoint_size`,
`_lwline_size`, `_lwtriangle_size`, `_lwcircstring_size`): type, count, ordinates. -/
def ptarrayNodeSize (flags : UInt8) (pa : PointArray) : Nat :=
  4 + 4 + pa.npoints * flagsNdims flags % 2 ^ 32 * 8

def gserializedFromLwpointSize (flags : UInt8) (point : PointArray) : Nat := ptarrayNodeSize flags point
def gserializedFromLwlineSize (flags : UInt8) (points : PointArray) : Nat := ptarrayNodeSize flags points
def gserializedFromLwtriangleSize (flags : UInt8) (points : PointArray) : Nat :=
  ptarrayNodeSize flags points
def gserializedFromLwcircstringSize (flags : UInt8) (points : PointArray) : Nat :=
  ptarrayNodeSize flags points

/-- `gserialized_from_lwpoly_size`: type, ring count, padding when the count is
odd, and per ring a count and its ordinates. -/
def gserializedFromLwpolySize (flags : UInt8) (rings : List PointArray) : Nat :=
  4 + 4 + (if rings.length % 2 = 1 then 4 else 0) +
    (rings.map fun ring => 4 + ring.npoints * flagsNdims flags % 2 ^ 32 * 8).sum

/-- `gserialized_from_any_size`; the collection branch is
`gserialized_from_lwcollection_size`. -/
def gserializedFromAnySize : Lwgeom → Except LwError Nat
  | .point f _ _ pa => .ok (gserializedFromLwpointSize f pa)
  | .line f _ _ pa => .ok (gserializedFromLwlineSize f pa)
  | .polygon f _ _ rs => .ok (gserializedFromLwpolySize f rs)
  | .triangle f _ _ pa => .ok (gserializedFromLwtriangleSize f pa)
  | .circString f _ _ pa => .ok (gserializedFromLwcircstringSize f pa)
  | .collection t _ _ _ gs =>
      if isCollectionType t then (subgeomsSize gs).map (4 + 4 + ·) else .error (.unknownGeometryType t)
where subgeomsSize : List Lwgeom → Except LwError Nat
  | [] => .ok 0
  | g :: gs => do
    let size ← gserializedFromAnySize g
    let rest ← subgeomsSize gs
    return size + rest

/-- `gserialized_from_lwgeom_size`: header, box when the geometry has one, body. -/
def gserializedFromLwgeomSize (geom : Lwgeom) : Except LwError Nat := do
  let body ← gserializedFromAnySize geom
  return 8 + (if geom.bbox.isSome then gboxSerializedSize geom.flags else 0) + body

/-- `gserialized_from_lwpoint`: it copies one point, whatever the count says. -/
def gserializedFromLwpoint (flags : UInt8) (point : PointArray) : Except LwError (List UInt8) :=
  if flagsGetZm flags ≠ flagsGetZm point.flags then .error (.dimensionsMismatch "lwpoint")
  else .ok (le32 pointType ++ le32 point.npoints ++
    if point.npoints > 0 then point.serializedPointlist.take (ptarrayPointSize point.flags) else [])

/-- `gserialized_from_lwline`. Unlike its siblings it compares only the Z bits. -/
def gserializedFromLwline (flags : UInt8) (points : PointArray) : Except LwError (List UInt8) :=
  if flagsGetZ flags ≠ flagsGetZ points.flags then .error (.dimensionsMismatch "lwline")
  else .ok (le32 lineType ++ le32 points.npoints ++
    if points.npoints > 0 then
      points.serializedPointlist.take (points.npoints * ptarrayPointSize points.flags % 2 ^ 32)
    else [])

/-- The writers of the other one-array kinds: type, count, `npoints * ptsize` bytes. -/
def gserializedFromPointList (type : Nat) (kind : String) (flags : UInt8) (points : PointArray) :
    Except LwError (List UInt8) :=
  if flagsGetZm flags ≠ flagsGetZm points.flags then .error (.dimensionsMismatch kind)
  else .ok (le32 type ++ le32 points.npoints ++
    if points.npoints > 0 then
      points.serializedPointlist.take (points.npoints * ptarrayPointSize points.flags % 2 ^ 32)
    else [])

def gserializedFromLwtriangle (flags : UInt8) (points : PointArray) : Except LwError (List UInt8) :=
  gserializedFromPointList triangleType "lwtriangle" flags points

def gserializedFromLwcircstring (flags : UInt8) (points : PointArray) : Except LwError (List UInt8) :=
  gserializedFromPointList circStringType "lwcircstring" flags points

/-- The count table of a polygon: one count per ring, then a zero word when the
number of rings is odd. -/
def polyRingTable (rings : List PointArray) : List UInt8 :=
  (rings.map fun ring => le32 ring.npoints).flatten ++ if rings.length % 2 = 1 then le32 0 else []

/-- `gserialized_from_lwpoly`. A ring's dimensions are checked when its
ordinates are copied, with the polygon's point size. -/
def gserializedFromLwpoly (flags : UInt8) (rings : List PointArray) : Except LwError (List UInt8) :=
  (ordinates rings).map (le32 polygonType ++ le32 rings.length ++ polyRingTable rings ++ ·)
where ordinates : List PointArray → Except LwError (List UInt8)
  | [] => .ok []
  | ring :: rings =>
    if flagsGetZm flags ≠ flagsGetZm ring.flags then .error (.dimensionsMismatch "lwpoly")
    else (ordinates rings).map
      (ring.serializedPointlist.take (ring.npoints * (8 * flagsNdims flags) % 2 ^ 32) ++ ·)

/-- `gserialized_from_lwgeom_any`; the collection branch is
`gserialized_from_lwcollection`, which checks each child's dimensions first. -/
def gserializedFromLwgeomAny : Lwgeom → Except LwError (List UInt8)
  | .point f _ _ pa => gserializedFromLwpoint f pa
  | .line f _ _ pa => gserializedFromLwline f pa
  | .polygon f _ _ rs => gserializedFromLwpoly f rs
  | .triangle f _ _ pa => gserializedFromLwtriangle f pa
  | .circString f _ _ pa => gserializedFromLwcircstring f pa
  | .collection t f _ _ gs =>
      if isCollectionType t then (subgeoms f gs).map (le32 t ++ le32 gs.length ++ ·)
      else .error (.unknownGeometryType t)
where subgeoms (flags : UInt8) : List Lwgeom → Except LwError (List UInt8)
  | [] => .ok []
  | g :: gs =>
    if flagsGetZm flags ≠ flagsGetZm g.flags then .error (.dimensionsMismatch "lwcollection")
    else do
      let sub ← gserializedFromLwgeomAny g
      let rest ← subgeoms flags gs
      return sub ++ rest

def floatBytes (f : UInt32) : List UInt8 := le32 f.toNat

/-- `gserialized_from_gbox`: minima rounded down and maxima up to floats, laid
out by the box's own flags. -/
def gserializedFromGbox (gbox : Gbox) : List UInt8 :=
  floatBytes (nextFloatDown gbox.xmin) ++ floatBytes (nextFloatUp gbox.xmax) ++
    floatBytes (nextFloatDown gbox.ymin) ++ floatBytes (nextFloatUp gbox.ymax) ++
    if flagsGetGeodetic gbox.flags = 1 then
      floatBytes (nextFloatDown gbox.zmin) ++ floatBytes (nextFloatUp gbox.zmax)
    else
      (if flagsGetZ gbox.flags = 1 then
        floatBytes (nextFloatDown gbox.zmin) ++ floatBytes (nextFloatUp gbox.zmax) else []) ++
      (if flagsGetM gbox.flags = 1 then
        floatBytes (nextFloatDown gbox.mmin) ++ floatBytes (nextFloatUp gbox.mmax) else [])

/-- Modelled from the spec: `lwgeom_add_bbox` attaches the box the calculator returns. -/
def lwgeomAddBbox (c : Collaborators) (geom : Lwgeom) : Lwgeom :=
  match c.calculateGbox geom with
  | some box => geom.setBbox (some box)
  | none => geom

/-- The first two steps of `gserialized_from_lwgeom`, which change the caller's
geometry: a box is added when one is needed, then the box bit follows it. -/
def prepareBbox (c : Collaborators) (geom : Lwgeom) : Lwgeom :=
  let geom :=
    if geom.bbox.isNone && c.needsBbox geom && !c.isEmpty geom then lwgeomAddBbox c geom else geom
  geom.setFlags (flagsSetBbox geom.flags geom.bbox.isSome)

/-- `gserialized_from_lwgeom`: the record, or the error that ended the call. The
size word is `return_size << 2` in a `uint32_t`. -/
def gserializedFromLwgeom (L : SridLimits) (c : Collaborators) (geom : Lwgeom) :
    Except LwError (List UInt8) := do
  let geom := prepareBbox c geom
  let expectedSize ← gserializedFromLwgeomSize geom
  let box := match geom.bbox with
    | some gbox => gserializedFromGbox gbox
    | none => []
  let body ← gserializedFromLwgeomAny geom
  let returnSize := 8 + box.length + body.length
  if expectedSize ≠ returnSize then throw (.returnSizeMismatch returnSize expectedSize)
  else return le32 (returnSize <<< 2) ++ gserializedSetSrid L geom.srid ++ [geom.flags] ++ box ++ body

end GSerialized
