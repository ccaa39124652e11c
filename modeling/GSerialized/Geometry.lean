import GSerialized.Flags
import GSerialized.Bytes

/-! The in-memory geometry tree that `gserialized_from_lwgeom` reads and
`lwgeom_from_gserialized` builds, and the collaborators the codec calls
but does not define. -/
namespace GSerialized

/-- `POINTARRAY`: `npoints` points of `ptarray_point_size` bytes each, held as
the bytes of `serialized_pointlist`. -/
structure PointArray where
  flags : UInt8
  npoints : Nat
  serializedPointlist : List UInt8
  npoints_lt : npoints < 2 ^ 32
  length_eq : serializedPointlist.length = npoints * ptarrayPointSize flags

/-- `GBOX`: the flags it was built under and eight `double` extrema. -/
structure Gbox where
  flags : UInt8
  xmin : UInt64
  xmax : UInt64
  ymin : UInt64
  ymax : UInt64
  zmin : UInt64
  zmax : UInt64
  mmin : UInt64
  mmax : UInt64
  deriving DecidableEq, Repr

/-- `LWGEOM` and its casts. The four one-array kinds share the `LWLINE`
layout, a polygon holds rings, and the ten collection kinds share
`LWCOLLECTION`, whose type number is a field. The `srid` is an `int32_t`. -/
inductive Lwgeom where
  | point (flags : UInt8) (bbox : Option Gbox) (srid : Int) (point : PointArray)
  | line (flags : UInt8) (bbox : Option Gbox) (srid : Int) (points : PointArray)
  | polygon (flags : UInt8) (bbox : Option Gbox) (srid : Int) (rings : List PointArray)
  | triangle (flags : UInt8) (bbox : Option Gbox) (srid : Int) (points : PointArray)
  | circString (flags : UInt8) (bbox : Option Gbox) (srid : Int) (points : PointArray)
  | collection (type : Nat) (flags : UInt8) (bbox : Option Gbox) (srid : Int) (geoms : List Lwgeom)

namespace Lwgeom

def type : Lwgeom → Nat
  | point .. => pointType
  | line .. => lineType
  | polygon .. => polygonType
  | triangle .. => triangleType
  | circString .. => circStringType
  | collection type .. => type

def flags : Lwgeom → UInt8
  | point f .. | line f .. | polygon f .. | triangle f .. | circString f .. => f
  | collection _ f .. => f

def bbox : Lwgeom → Option Gbox
  | point _ b .. | line _ b .. | polygon _ b .. | triangle _ b .. | circString _ b .. => b
  | collection _ _ b .. => b

def srid : Lwgeom → Int
  | point _ _ s _ | line _ _ s _ | polygon _ _ s _ | triangle _ _ s _ | circString _ _ s _ => s
  | collection _ _ _ s _ => s

def geoms : Lwgeom → List Lwgeom
  | collection _ _ _ _ gs => gs
  | _ => []

def pointArrays : Lwgeom → List PointArray
  | point _ _ _ pa | line _ _ _ pa | triangle _ _ _ pa | circString _ _ _ pa => [pa]
  | polygon _ _ _ rings => rings
  | collection .. => []

def setFlags (flags : UInt8) : Lwgeom → Lwgeom
  | point _ b s pa => point flags b s pa
  | line _ b s pa => line flags b s pa
  | polygon _ b s rs => polygon flags b s rs
  | triangle _ b s pa => triangle flags b s pa
  | circString _ b s pa => circString flags b s pa
  | collection t _ b s gs => collection t flags b s gs

def setBbox (bbox : Option Gbox) : Lwgeom → Lwgeom
  | point f _ s pa => point f bbox s pa
  | line f _ s pa => line f bbox s pa
  | polygon f _ s rs => polygon f bbox s rs
  | triangle f _ s pa => triangle f bbox s pa
  | circString f _ s pa => circString f bbox s pa
  | collection t f _ s gs => collection t f bbox s gs

/-- Modelled from the spec: `lwgeom_set_srid`, which gives the root its identifier. -/
def setSrid (srid : Int) : Lwgeom → Lwgeom
  | point f b _ pa => point f b srid pa
  | line f b _ pa => line f b srid pa
  | polygon f b _ rs => polygon f b srid rs
  | triangle f b _ pa => triangle f b srid pa
  | circString f b _ pa => circString f b srid pa
  | collection t f b _ gs => collection t f b srid gs

/-- `lwgeom->type = type`: a collection takes the number; a one-array node or a
polygon keeps its kind, which its constructor fixes. -/
def setType (type : Nat) : Lwgeom → Lwgeom
  | collection _ f b s gs => collection type f b s gs
  | g => g

@[simp] theorem type_setFlags (g : Lwgeom) (f : UInt8) : (g.setFlags f).type = g.type := by
  cases g <;> rfl
@[simp] theorem flags_setFlags (g : Lwgeom) (f : UInt8) : (g.setFlags f).flags = f := by
  cases g <;> rfl
@[simp] theorem bbox_setFlags (g : Lwgeom) (f : UInt8) : (g.setFlags f).bbox = g.bbox := by
  cases g <;> rfl
@[simp] theorem srid_setFlags (g : Lwgeom) (f : UInt8) : (g.setFlags f).srid = g.srid := by
  cases g <;> rfl
@[simp] theorem type_setBbox (g : Lwgeom) (b : Option Gbox) : (g.setBbox b).type = g.type := by
  cases g <;> rfl
@[simp] theorem flags_setBbox (g : Lwgeom) (b : Option Gbox) : (g.setBbox b).flags = g.flags := by
  cases g <;> rfl
@[simp] theorem bbox_setBbox (g : Lwgeom) (b : Option Gbox) : (g.setBbox b).bbox = b := by
  cases g <;> rfl
@[simp] theorem srid_setBbox (g : Lwgeom) (b : Option Gbox) : (g.setBbox b).srid = g.srid := by
  cases g <;> rfl
@[simp] theorem type_setSrid (g : Lwgeom) (s : Int) : (g.setSrid s).type = g.type := by
  cases g <;> rfl
@[simp] theorem flags_setSrid (g : Lwgeom) (s : Int) : (g.setSrid s).flags = g.flags := by
  cases g <;> rfl
@[simp] theorem bbox_setSrid (g : Lwgeom) (s : Int) : (g.setSrid s).bbox = g.bbox := by
  cases g <;> rfl
@[simp] theorem srid_setSrid (g : Lwgeom) (s : Int) : (g.setSrid s).srid = s := by
  cases g <;> rfl
@[simp] theorem geoms_setFlags (g : Lwgeom) (f : UInt8) : (g.setFlags f).geoms = g.geoms := by
  cases g <;> rfl
@[simp] theorem geoms_setBbox (g : Lwgeom) (b : Option Gbox) : (g.setBbox b).geoms = g.geoms := by
  cases g <;> rfl
@[simp] theorem geoms_setSrid (g : Lwgeom) (s : Int) : (g.setSrid s).geoms = g.geoms := by
  cases g <;> rfl
@[simp] theorem pointArrays_setFlags (g : Lwgeom) (f : UInt8) :
    (g.setFlags f).pointArrays = g.pointArrays := by
  cases g <;> rfl
@[simp] theorem pointArrays_setBbox (g : Lwgeom) (b : Option Gbox) :
    (g.setBbox b).pointArrays = g.pointArrays := by
  cases g <;> rfl
@[simp] theorem pointArrays_setSrid (g : Lwgeom) (s : Int) :
    (g.setSrid s).pointArrays = g.pointArrays := by
  cases g <;> rfl

@[simp] theorem setFlags_flags (g : Lwgeom) : g.setFlags g.flags = g := by
  cases g <;> rfl
@[simp] theorem setType_type (g : Lwgeom) : g.setType g.type = g := by
  cases g <;> rfl
@[simp] theorem pointArrays_setType (g : Lwgeom) (t : Nat) : (g.setType t).pointArrays = g.pointArrays := by
  cases g <;> rfl
@[simp] theorem geoms_setType (g : Lwgeom) (t : Nat) : (g.setType t).geoms = g.geoms := by
  cases g <;> rfl

/-- Induction over the tree, a collection's children given as a list. -/
@[elab_as_elim]
theorem induction {motive : Lwgeom → Prop}
    (point : ∀ f b s pa, motive (point f b s pa))
    (line : ∀ f b s pa, motive (line f b s pa))
    (polygon : ∀ f b s rs, motive (polygon f b s rs))
    (triangle : ∀ f b s pa, motive (triangle f b s pa))
    (circString : ∀ f b s pa, motive (circString f b s pa))
    (collection : ∀ t f b s gs, (∀ g ∈ gs, motive g) → motive (collection t f b s gs))
    (g : Lwgeom) : motive g :=
  @Lwgeom.rec motive (fun gs => ∀ g ∈ gs, motive g) point line polygon triangle circString
    (fun t f b s gs ih => collection t f b s gs ih) (fun _ h => absurd h (List.not_mem_nil _))
    (fun _ _ hg hgs c hc => (List.mem_cons.mp hc).elim (fun e => e ▸ hg) (hgs c)) g

inductive IsNode : Lwgeom → Lwgeom → Prop
  | refl (g : Lwgeom) : IsNode g g
  | child {g c n : Lwgeom} : c ∈ g.geoms → IsNode c n → IsNode g n

/-- What the codec has to carry over: the kind of every node, the count and the
ordinate bytes of every point array, and the children in order. -/
inductive Shape where
  | node (type : Nat) (arrays : List (Nat × List UInt8)) (children : List Shape)

def shape : Lwgeom → Shape
  | collection t _ _ _ gs => .node t [] (shapeList gs)
  | g => .node g.type (g.pointArrays.map fun pa => (pa.npoints, pa.serializedPointlist)) []
where shapeList : List Lwgeom → List Shape
  | [] => []
  | g :: gs => shape g :: shapeList gs

@[simp] theorem shape_setFlags (g : Lwgeom) (f : UInt8) : (g.setFlags f).shape = g.shape := by
  cases g <;> rfl
@[simp] theorem shape_setBbox (g : Lwgeom) (b : Option Gbox) : (g.setBbox b).shape = g.shape := by
  cases g <;> rfl
@[simp] theorem shape_setSrid (g : Lwgeom) (s : Int) : (g.setSrid s).shape = g.shape := by
  cases g <;> rfl

def all (p : Lwgeom → Bool) : Lwgeom → Bool
  | g@(collection _ _ _ _ gs) => p g && allList gs
  | g => p g
where allList : List Lwgeom → Bool
  | [] => true
  | g :: gs => all p g && allList gs

theorem all_allList (p : Lwgeom → Bool) (gs : List Lwgeom) :
    all.allList p gs = true ↔ ∀ g ∈ gs, all p g = true := by
  induction gs with
  | nil => simp [all.allList]
  | cons g gs ih => simp [all.allList, ih]

theorem all_iff (p : Lwgeom → Bool) (g : Lwgeom) :
    all p g = true ↔ p g = true ∧ ∀ c ∈ g.geoms, all p c = true := by
  cases g <;> simp [all, geoms, all_allList]

theorem all_congr_root {p : Lwgeom → Bool} {g g' : Lwgeom} (hg : g'.geoms = g.geoms) (hp : p g' = p g) :
    all p g' = all p g := by
  rw [Bool.eq_iff_iff, all_iff, all_iff, hg, hp]

theorem all_self {p : Lwgeom → Bool} {g : Lwgeom} (h : all p g = true) : p g = true :=
  ((all_iff p g).mp h).1

theorem all_child {p : Lwgeom → Bool} {g c : Lwgeom} (h : all p g = true) (hc : c ∈ g.geoms) :
    all p c = true :=
  ((all_iff p g).mp h).2 c hc

theorem all_of_isNode {p : Lwgeom → Bool} {g n : Lwgeom} (h : all p g = true) (hn : IsNode g n) :
    all p n = true := by
  induction hn with
  | refl => exact h
  | child hc _ ih => exact ih (all_child h hc)

theorem all_imp {p q : Lwgeom → Bool} (hpq : ∀ g, p g = true → q g = true) {g : Lwgeom} (h : all p g = true) :
    all q g = true := by
  induction g using Lwgeom.induction with
  | collection t f b s gs ih =>
    rw [all_iff] at h ⊢
    exact ⟨hpq _ h.1, fun c hc => ih c hc (h.2 c hc)⟩
  | _ =>
    rw [all_iff] at h ⊢
    exact ⟨hpq _ h.1, fun c hc => absurd hc (List.not_mem_nil c)⟩

/-- Every node has Z and M `zm`, and so has every point array. -/
def zmIs (zm : Nat) : Lwgeom → Bool :=
  all fun n => flagsGetZm n.flags = zm && n.pointArrays.all fun pa => flagsGetZm pa.flags = zm

@[simp] theorem zmIs_setBbox (zm : Nat) (g : Lwgeom) (b : Option Gbox) :
    (g.setBbox b).zmIs zm = g.zmIs zm :=
  all_congr_root (geoms_setBbox g b) (by simp only [flags_setBbox, pointArrays_setBbox])
@[simp] theorem zmIs_setSrid (zm : Nat) (g : Lwgeom) (s : Int) : (g.setSrid s).zmIs zm = g.zmIs zm :=
  all_congr_root (geoms_setSrid g s) (by simp only [flags_setSrid, pointArrays_setSrid])

end Lwgeom

/-- The functions of the rest of the library that the codec calls:
`lwgeom_needs_bbox`, `lwgeom_is_empty`, `lwgeom_calculate_gbox` (none when it
fails), `lwcollection_allows_subtype`, and the geodetic hash's `normalize`
and `cart2geog` applied to a box centroid, giving longitude and latitude. -/
structure Collaborators where
  needsBbox : Lwgeom → Bool
  isEmpty : Lwgeom → Bool
  calculateGbox : Lwgeom → Option Gbox
  allowsSubtype : Nat → Nat → Bool
  centroidLonLat : UInt64 → UInt64 → UInt64 → UInt64 × UInt64

/-! The preconditions of the codec's round trip, node by node. -/

namespace Lwgeom

def knownKind : Lwgeom → Bool
  | collection t .. => isCollectionType t
  | _ => true

def admitted (allowsSubtype : Nat → Nat → Bool) : Lwgeom → Bool
  | collection t _ _ _ gs => gs.all fun c => allowsSubtype t c.type
  | _ => true

def zmUniform (g : Lwgeom) : Bool :=
  g.pointArrays.all (fun pa => flagsGetZm pa.flags = flagsGetZm g.flags) &&
    g.geoms.all fun c => flagsGetZm c.flags = flagsGetZm g.flags

def pointAtMostOne : Lwgeom → Bool
  | point _ _ _ pa => pa.npoints ≤ 1
  | _ => true

/-- `ngeoms` and `nrings` are `uint32_t`. -/
def countsFit (g : Lwgeom) : Bool := g.geoms.length < 2 ^ 32 && g.pointArrays.length < 2 ^ 32

/-- The trees the round-trip properties are stated for. -/
def valid (allowsSubtype : Nat → Nat → Bool) : Lwgeom → Bool :=
  all fun g => g.knownKind && g.admitted allowsSubtype && g.zmUniform && g.pointAtMostOne &&
    g.countsFit

theorem valid_setBbox {A : Nat → Nat → Bool} (g : Lwgeom) (b : Option Gbox) :
    (g.setBbox b).valid A = g.valid A :=
  all_congr_root (geoms_setBbox g b) (by cases g <;> rfl)

theorem valid_setFlags {A : Nat → Nat → Bool} (g : Lwgeom) {f : UInt8}
    (h : flagsGetZm f = flagsGetZm g.flags) : (g.setFlags f).valid A = g.valid A :=
  all_congr_root (geoms_setFlags g f) (by cases g <;> simp [knownKind, admitted, zmUniform,
    pointAtMostOne, countsFit, setFlags, pointArrays, geoms, flags] at h ⊢ <;> simp [h])

theorem valid_node {A : Nat → Nat → Bool} {g : Lwgeom} (hv : g.valid A) :
    g.knownKind ∧ g.admitted A ∧ (∀ pa ∈ g.pointArrays, flagsGetZm pa.flags = flagsGetZm g.flags) ∧
      (∀ c ∈ g.geoms, flagsGetZm c.flags = flagsGetZm g.flags) ∧ g.pointAtMostOne ∧ g.countsFit ∧
      ∀ c ∈ g.geoms, c.valid A := by
  have h := all_self hv
  simp only [Bool.and_eq_true, zmUniform, List.all_eq_true, decide_eq_true_eq] at h
  exact ⟨h.1.1.1.1, h.1.1.1.2, h.1.1.2.1, h.1.1.2.2, h.1.2, h.2, fun c hc => all_child hv hc⟩

end Lwgeom

end GSerialized
