import GSerialized.Empty

/-! Boxes without a tree: `gserialized_peek_gbox_p`, which reads the box of four
small bodies straight off a box-free record, and `gserialized_get_gbox_p`,
which tries the stored box, the peek, and a full decode, in that order. -/
namespace GSerialized

/-- `dptr[i]` for `double *dptr = (double*)(g->data)`: the `i`-th double past the
eight header bytes. -/
def dataDouble (g : List UInt8) (i : Nat) : Except LwError UInt64 :=
  match readBytes g (8 + 8 * i) 8 with
  | some bytes => .ok (UInt64.ofNat (ofLe bytes))
  | none => .error (.readPastEnd (8 + 8 * i))

def dataInt (g : List UInt8) (i : Nat) : Except LwError Int := readInt32 g (8 + 4 * i)

/-- Modelled from the spec: `gbox_float_round`, which widens a derived box by the
directed rounding of the stored box: x and y always, z and m when the box's
flags have them. -/
def gboxFloatRound (gbox : Gbox) : Gbox :=
  { gbox with
    xmin := floatToDouble (nextFloatDown gbox.xmin), xmax := floatToDouble (nextFloatUp gbox.xmax),
    ymin := floatToDouble (nextFloatDown gbox.ymin), ymax := floatToDouble (nextFloatUp gbox.ymax),
    zmin := if flagsGetZ gbox.flags = 1 then floatToDouble (nextFloatDown gbox.zmin) else gbox.zmin,
    zmax := if flagsGetZ gbox.flags = 1 then floatToDouble (nextFloatUp gbox.zmax) else gbox.zmax,
    mmin := if flagsGetM gbox.flags = 1 then floatToDouble (nextFloatDown gbox.mmin) else gbox.mmin,
    mmax := if flagsGetM gbox.flags = 1 then floatToDouble (nextFloatUp gbox.mmax) else gbox.mmax }

/-- The point and single-point multipoint cases of `gserialized_peek_gbox_p`:
the coordinate from `dptr[i]` on, as the box of one point, rounded out. -/
def peekCoordinate (g : List UInt8) (flags : UInt8) (gbox : Gbox) (i : Nat) : Except LwError Gbox := do
  let x ← dataDouble g i
  let y ← dataDouble g (i + 1)
  let gbox := { gbox with xmin := x, xmax := x, ymin := y, ymax := y, flags }
  let (gbox, i) ← (if flagsGetZ flags = 1 then do
      let z ← dataDouble g (i + 2)
      pure ({ gbox with zmin := z, zmax := z }, i + 3)
    else pure (gbox, i + 2))
  let gbox ← (if flagsGetM flags = 1 then do
      let m ← dataDouble g i
      pure { gbox with mmin := m, mmax := m }
    else pure gbox)
  return gboxFloatRound gbox

/-- One axis of a two-point line: `FP_MIN` and `FP_MAX` of `dptr[i]` and
`dptr[i + ndims]`. -/
def peekAxis (g : List UInt8) (ndims i : Nat) : Except LwError (UInt64 × UInt64) := do
  let a ← dataDouble g i
  let b ← dataDouble g (i + ndims)
  return (fpMin a b, fpMax a b)

/-- The two-point line and single-line multiline cases: per axis, the least and
greatest of the two points' ordinates from `dptr[i]` on, rounded out. -/
def peekSegment (g : List UInt8) (flags : UInt8) (gbox : Gbox) (i : Nat) : Except LwError Gbox := do
  let ndims := flagsNdims flags
  let (xmin, xmax) ← peekAxis g ndims i
  let (ymin, ymax) ← peekAxis g ndims (i + 1)
  let gbox := { gbox with xmin, xmax, ymin, ymax, flags }
  let (gbox, i) ← (if flagsGetZ flags = 1 then do
      let (zmin, zmax) ← peekAxis g ndims (i + 2)
      pure ({ gbox with zmin, zmax }, i + 3)
    else pure (gbox, i + 2))
  let gbox ← (if flagsGetM flags = 1 then do
      let (mmin, mmax) ← peekAxis g ndims i
      pure { gbox with mmin, mmax }
    else pure gbox)
  return gboxFloatRound gbox

/-- `gserialized_peek_gbox_p`: a box for a non-empty Point, a two-point
LineString, a MultiPoint of one non-empty Point and a MultiLineString of one
two-point LineString, on records with neither a box nor the geodetic bit. -/
def gserializedPeekGboxP (g : List UInt8) (gbox : Gbox) : Except LwError (Option Gbox) := do
  let type ← gserializedGetType g
  let flags ← readU8 g 7
  if flagsGetGeodetic flags = 1 || flagsGetBbox flags = 1 then pure none
  else if type.toNat = pointType then do
    let isempty ← dataInt g 1
    if isempty = 0 then pure none else some <$> peekCoordinate g flags gbox 1
  else if type.toNat = lineType then do
    let npoints ← dataInt g 1
    if npoints ≠ 2 then pure none else some <$> peekSegment g flags gbox 1
  else if type.toNat = multiPointType then do
    let ngeoms ← dataInt g 1
    if ngeoms ≠ 1 then pure none else do
      let npoints ← dataInt g 3
      if npoints ≠ 1 then pure none else some <$> peekCoordinate g flags gbox 2
  else if type.toNat = multiLineType then do
    let ngeoms ← dataInt g 1
    if ngeoms ≠ 1 then pure none else do
      let npoints ← dataInt g 3
      if npoints ≠ 2 then pure none else some <$> peekSegment g flags gbox 2
  else pure none

/-- `gserialized_get_gbox_p`: the stored box, else the peeked one, else the box
the collaborators calculate for the decoded tree, rounded out. -/
def gserializedGetGboxP (c : Collaborators) (g : List UInt8) (box : Gbox) : Except LwError (Option Gbox) :=
  gserializedReadGboxP g box >>= fun
    | some box => pure (some box)
    | none => gserializedPeekGboxP g box >>= fun
      | some box => pure (some box)
      | none => do
        let lwgeom ← lwgeomFromGserialized c g
        pure ((c.calculateGbox lwgeom).map gboxFloatRound)

/-! What the routes return, measured against the tree: on every axis the record
has, a least ordinate rounded down to a float and a greatest rounded up. -/

inductive Axis where
  | x | y | z | m

namespace Axis

def present (flags : UInt8) : Axis → Bool
  | x | y => true
  | z => flagsGetZ flags = 1
  | m => flagsGetM flags = 1

def index (flags : UInt8) : Axis → Nat
  | x => 0
  | y => 1
  | z => 2
  | m => 2 + flagsGetZ flags

/-- `P` holds on every axis the flags have, at the axis's place. -/
def All (flags : UInt8) (P : Axis → Nat → Prop) : Prop :=
  ∀ a : Axis, a.present flags → P a (a.index flags)

theorem All.congr {f f' : UInt8} {P : Axis → Nat → Prop} (hz : flagsGetZ f = flagsGetZ f')
    (hm : flagsGetM f = flagsGetM f') (h : All f P) : All f' P := fun a ha => by
  have hp : a.present f = a.present f' := by cases a <;> simp [present, hz, hm]
  have hi : a.index f = a.index f' := by cases a <;> simp [index, hz]
  exact hi ▸ h a (hp ▸ ha)

theorem All.intro {f : UInt8} {P : Axis → Nat → Prop} (hx : P .x 0) (hy : P .y 1)
    (hz : flagsGetZ f = 1 → P .z 2) (hm : flagsGetM f = 1 → P .m (2 + flagsGetZ f)) : All f P
  | .x, _ => hx
  | .y, _ => hy
  | .z, h => hz (by simpa [present] using h)
  | .m, h => hm (by simpa [present] using h)

end Axis

namespace Gbox

def lo (b : Gbox) : Axis → UInt64
  | .x => b.xmin
  | .y => b.ymin
  | .z => b.zmin
  | .m => b.mmin

def hi (b : Gbox) : Axis → UInt64
  | .x => b.xmax
  | .y => b.ymax
  | .z => b.zmax
  | .m => b.mmax

end Gbox

namespace PointArray

def ordinate (pa : PointArray) (j k : Nat) : UInt64 :=
  UInt64.ofNat (ofLe ((pa.serializedPointlist.drop (8 * (j * flagsNdims pa.flags + k))).take 8))

/-- The `k`-th ordinate of every point, in order. -/
def ordinates (pa : PointArray) (k : Nat) : List UInt64 :=
  (List.range pa.npoints).map (pa.ordinate · k)

theorem ordinates_view {pa : PointArray} {flags : UInt8} (h : flagsGetZm pa.flags = flagsGetZm flags) (k : Nat) :
    (pa.view flags).ordinates k = pa.ordinates k := by
  simp only [ordinates, ordinate, view_npoints, view_serializedPointlist,
    flagsNdims_eq_of_zm ((flagsGetZm_view h).trans h.symm)]

theorem ordinate_window {pa : PointArray} {j k : Nat} (hj : j < pa.npoints) (hk : k < flagsNdims pa.flags) :
    8 * (j * flagsNdims pa.flags + k) + 8 ≤ pa.serializedPointlist.length := by
  have hrow : j * flagsNdims pa.flags + flagsNdims pa.flags ≤ pa.npoints * flagsNdims pa.flags :=
    (Nat.succ_mul j _).symm ▸ Nat.mul_le_mul_right _ hj
  rw [pa.length_eq, ptarrayPointSize, Nat.mul_left_comm]; omega

theorem ordinates_of_npoints_one {pa : PointArray} (h : pa.npoints = 1) (k : Nat) :
    pa.ordinates k = [pa.ordinate 0 k] := by
  rw [ordinates, h]; rfl

theorem ordinates_of_npoints_two {pa : PointArray} (h : pa.npoints = 2) (k : Nat) :
    pa.ordinates k = [pa.ordinate 0 k, pa.ordinate 1 k] := by
  rw [ordinates, h]; rfl

end PointArray

namespace Lwgeom

/-- The `k`-th ordinate of every point of the tree, rings and children in order. -/
def ordinates (k : Nat) : Lwgeom → List UInt64
  | collection _ _ _ _ gs => ordinatesList k gs
  | g => (g.pointArrays.map (·.ordinates k)).flatten
where ordinatesList (k : Nat) : List Lwgeom → List UInt64
  | [] => []
  | g :: gs => ordinates k g ++ ordinatesList k gs

@[simp] theorem ordinates_setBbox (k : Nat) (g : Lwgeom) (b : Option Gbox) :
    (g.setBbox b).ordinates k = g.ordinates k := by
  cases g <;> rfl
@[simp] theorem ordinates_setFlags (k : Nat) (g : Lwgeom) (f : UInt8) :
    (g.setFlags f).ordinates k = g.ordinates k := by
  cases g <;> rfl
@[simp] theorem ordinates_setSrid (k : Nat) (g : Lwgeom) (s : Int) :
    (g.setSrid s).ordinates k = g.ordinates k := by
  cases g <;> rfl

theorem ordinatesList_map {F : Lwgeom → Lwgeom} {k : Nat} {gs : List Lwgeom}
    (h : ∀ c ∈ gs, (F c).ordinates k = c.ordinates k) :
    ordinates.ordinatesList k (gs.map F) = ordinates.ordinatesList k gs := by
  induction gs with
  | nil => rfl
  | cons g gs ih =>
    rw [List.map_cons, ordinates.ordinatesList, ordinates.ordinatesList, h g (List.mem_cons_self _ _),
      ih fun c hc => h c (List.mem_cons_of_mem _ hc)]

@[simp] theorem ordinates_line (k : Nat) (f : UInt8) (b : Option Gbox) (s : Int) (pa : PointArray) :
    (line f b s pa).ordinates k = pa.ordinates k := by
  simp [ordinates, pointArrays]

theorem ordinatesList_eq_nil_iff {k : Nat} {gs : List Lwgeom} :
    ordinates.ordinatesList k gs = [] ↔ ∀ c ∈ gs, c.ordinates k = [] := by
  induction gs with
  | nil => simp [ordinates.ordinatesList]
  | cons g gs ih => simp [ordinates.ordinatesList, ih]

theorem ordinates_eq_nil_iff (k : Nat) (g : Lwgeom) : g.ordinates k = [] ↔ g.noCoordinates = true := by
  induction g using Lwgeom.induction with
  | collection t f b s gs ih =>
    rw [ordinates, ordinatesList_eq_nil_iff, noCoordinates, all_iff]
    simp only [pointArrays, geoms, List.all_nil, true_and]
    exact forall₂_congr fun c hc => ih c hc
  | _ => simp [ordinates, noCoordinates, all, pointArrays, PointArray.ordinates]

theorem ordinates_decoded {A : Nat → Nat → Bool} {g : Lwgeom} (hv : g.valid A) {flags : UInt8}
    (hzm : flagsGetZm g.flags = flagsGetZm flags) (k : Nat) : (g.decoded flags).ordinates k = g.ordinates k := by
  induction g using Lwgeom.induction generalizing flags with
  | collection t f b s gs ih =>
    obtain ⟨-, -, -, hzc, -, -, hvc⟩ := valid_node hv
    simp only [decoded, ordinates, decodedList_eq_map]
    exact ordinatesList_map fun c hc => ih c hc (hvc c hc)
      (show flagsGetZm c.flags = flagsGetZm (flagsSetBbox flags false) by rw [hzc c hc, hzm, flagsGetZm_setBbox])
  | polygon f b s rs =>
    have hzpa := (valid_node hv).2.2.1
    simp only [decoded, ordinates, pointArrays, List.map_map]
    congr 1
    exact List.map_congr_left fun pa hpa => PointArray.ordinates_view ((hzpa pa hpa).trans hzm) k
  | _ =>
    have hzpa := (valid_node hv).2.2.1
    simp only [decoded, ordinates, pointArrays, List.map_cons, List.map_nil] at hzpa ⊢
    rw [PointArray.ordinates_view ((hzpa _ (List.mem_singleton_self _)).trans hzm)]

end Lwgeom

/-- No ordinate on an axis the flags have is a NaN. -/
def NanFree (flags : UInt8) (vals : Nat → List UInt64) : Prop :=
  Axis.All flags fun _ k => ∀ v ∈ vals k, binary64.isNaN v.toNat = false

/-- `lo` and `hi` are a least and a greatest of `vals` under the doubles' `<=`. -/
def IsExtremes (vals : List UInt64) (lo hi : UInt64) : Prop :=
  lo ∈ vals ∧ hi ∈ vals ∧ ∀ v ∈ vals, doubleLe lo v ∧ doubleLe v hi

theorem isExtremes_singleton {v : UInt64} (hv : binary64.isNaN v.toNat = false) : IsExtremes [v] v v :=
  ⟨List.mem_singleton_self v, List.mem_singleton_self v, by simp [doubleLe_iff hv hv]⟩

theorem isExtremes_pair {a b : UInt64} (ha : binary64.isNaN a.toNat = false)
    (hb : binary64.isNaN b.toNat = false) : IsExtremes [a, b] (fpMin a b) (fpMax a b) := by
  have hmin : fpMin a b ∈ [a, b] := by rcases fpMin_mem (a := a) (b := b) with h | h <;> simp [h]
  have hmax : fpMax a b ∈ [a, b] := by rcases fpMax_mem (a := a) (b := b) with h | h <;> simp [h]
  have hnan : ∀ v ∈ [a, b], binary64.isNaN v.toNat = false := by simp [ha, hb]
  refine ⟨hmin, hmax, fun v hv => ?_⟩
  rw [doubleLe_iff (hnan _ hmin) (hnan v hv), doubleLe_iff (hnan v hv) (hnan _ hmax), key_fpMin ha hb,
    key_fpMax ha hb]
  simp only [List.mem_cons, List.mem_singleton, List.not_mem_nil, or_false] at hv
  rcases hv with rfl | rfl <;> omega

namespace Gbox

/-- On every axis the flags have, the box holds a least and a greatest of that
axis's ordinates. -/
def Bounds (b : Gbox) (flags : UInt8) (vals : Nat → List UInt64) : Prop :=
  Axis.All flags fun a k => IsExtremes (vals k) (b.lo a) (b.hi a)

/-- On every axis the flags have, the box holds a least and a greatest of that
axis's ordinates, rounded down and up to floats. -/
def RoundsOut (b : Gbox) (flags : UInt8) (vals : Nat → List UInt64) : Prop :=
  Axis.All flags fun a k => ∃ lo hi, IsExtremes (vals k) lo hi ∧
    b.lo a = floatToDouble (nextFloatDown lo) ∧ b.hi a = floatToDouble (nextFloatUp hi)

/-- The exact box of a tree, as `lwgeom_calculate_gbox` computes it: the tree's
Z, M and geodetic bits, and on each axis the least and the greatest ordinate. -/
def IsExactFor (b : Gbox) (g : Lwgeom) : Prop :=
  flagsGetZ b.flags = flagsGetZ g.flags ∧ flagsGetM b.flags = flagsGetM g.flags ∧
    flagsGetGeodetic b.flags = flagsGetGeodetic g.flags ∧ b.Bounds g.flags g.ordinates

end Gbox

/-- The least and the greatest of a list of doubles by `FP_MIN` and `FP_MAX`;
none for an empty list. -/
def extremes : List UInt64 → Option (UInt64 × UInt64)
  | [] => none
  | v :: vs => some (vs.foldl fpMin v, vs.foldl fpMax v)

theorem extremes_isSome {vals : List UInt64} (h : vals ≠ []) : ∃ p, extremes vals = some p := by
  cases vals with
  | nil => exact absurd rfl h
  | cons v vs => exact ⟨_, rfl⟩

theorem foldl_select {S : UInt64 → Prop} {R : UInt64 → UInt64 → Prop} {sel : UInt64 → UInt64 → UInt64}
    (hsel : ∀ a b, sel a b = a ∨ sel a b = b) (hR : ∀ a b, S a → S b → R (sel a b) a ∧ R (sel a b) b)
    (hrefl : ∀ a, R a a) (htrans : ∀ a b c, R a b → R b c → R a c) :
    ∀ (vs : List UInt64) (a : UInt64), (∀ v ∈ a :: vs, S v) →
      vs.foldl sel a ∈ a :: vs ∧ ∀ v ∈ a :: vs, R (vs.foldl sel a) v
  | [], a, _ => ⟨List.mem_singleton_self a, fun v hv => List.mem_singleton.mp hv ▸ hrefl a⟩
  | b :: vs, a, hS => by
    have hab : sel a b ∈ a :: b :: vs := by rcases hsel a b with h | h <;> simp [h]
    obtain ⟨hm, hr⟩ := foldl_select hsel hR hrefl htrans vs (sel a b) fun v hv => by
      rcases List.mem_cons.mp hv with rfl | hv
      · exact hS _ hab
      · exact hS v (by simp [hv])
    obtain ⟨hra, hrb⟩ := hR a b (hS a (by simp)) (hS b (by simp))
    have hsel_v := hr (sel a b) (List.mem_cons_self _ _)
    refine ⟨?_, fun v hv => ?_⟩
    · rcases List.mem_cons.mp hm with h | h
      · exact h ▸ hab
      · exact List.mem_cons_of_mem _ (List.mem_cons_of_mem _ h)
    · simp only [List.mem_cons] at hv
      rcases hv with rfl | rfl | hv
      · exact htrans _ _ _ hsel_v hra
      · exact htrans _ _ _ hsel_v hrb
      · exact hr v (List.mem_cons_of_mem _ hv)

theorem extremes_isExtremes {vals : List UInt64} {lo hi : UInt64} (h : extremes vals = some (lo, hi))
    (hnan : ∀ v ∈ vals, binary64.isNaN v.toNat = false) : IsExtremes vals lo hi := by
  cases vals with
  | nil => cases h
  | cons a vs =>
    simp only [extremes, Option.some.injEq, Prod.mk.injEq] at h
    obtain ⟨rfl, rfl⟩ := h
    have hmin := foldl_select (S := fun v => binary64.isNaN v.toNat = false) (R := fun a b => key a ≤ key b)
      (fun _ _ => fpMin_mem)
      (fun a b ha hb => show key _ ≤ key a ∧ key _ ≤ key b by rw [key_fpMin ha hb]; omega)
      (fun _ => Int.le_refl _) (fun _ _ _ => Int.le_trans) vs a hnan
    have hmax := foldl_select (S := fun v => binary64.isNaN v.toNat = false) (R := fun a b => key b ≤ key a)
      (fun _ _ => fpMax_mem)
      (fun a b ha hb => show key a ≤ key _ ∧ key b ≤ key _ by rw [key_fpMax ha hb]; omega)
      (fun _ => Int.le_refl _) (fun _ _ _ h1 h2 => Int.le_trans h2 h1) vs a hnan
    refine ⟨hmin.1, hmax.1, fun v hv => ⟨?_, ?_⟩⟩
    · rw [doubleLe_iff (hnan _ hmin.1) (hnan v hv)]; exact hmin.2 v hv
    · rw [doubleLe_iff (hnan v hv) (hnan _ hmax.1)]; exact hmax.2 v hv

/-- The extremes on an axis the tree's flags have; zeros on one they lack. -/
def axisExtremes (g : Lwgeom) (a : Axis) : Option (UInt64 × UInt64) :=
  if a.present g.flags then extremes (g.ordinates (a.index g.flags)) else some (0, 0)

/-- Modelled from the spec: `lwgeom_calculate_gbox`, which "computes a bbox from
coordinates": the tree's flags and, on every axis they have, the least and the
greatest ordinate; it fails on a tree without points. The geocentric box of a
geodetic tree is not modelled. -/
def calculateGboxCartesian (g : Lwgeom) : Option Gbox :=
  if flagsGetGeodetic g.flags = 1 then none else
  match axisExtremes g .x, axisExtremes g .y, axisExtremes g .z, axisExtremes g .m with
  | some (xmin, xmax), some (ymin, ymax), some (zmin, zmax), some (mmin, mmax) =>
    some ⟨g.flags, xmin, xmax, ymin, ymax, zmin, zmax, mmin, mmax⟩
  | _, _, _, _ => none

theorem calculateGboxCartesian_flags {g : Lwgeom} {b : Gbox} (h : calculateGboxCartesian g = some b) :
    b.flags = g.flags := by
  unfold calculateGboxCartesian at h
  split at h
  · cases h
  split at h
  · cases h; rfl
  · cases h

theorem calculateGboxCartesian_isSome {g : Lwgeom} (hgeo : flagsGetGeodetic g.flags = 0)
    (hc : g.noCoordinates = false) : (calculateGboxCartesian g).isSome := by
  have hax : ∀ a, ∃ p, axisExtremes g a = some p := fun a => by
    unfold axisExtremes
    split
    · exact extremes_isSome fun h => absurd ((Lwgeom.ordinates_eq_nil_iff _ g).mp h) (by simp [hc])
    · exact ⟨_, rfl⟩
  obtain ⟨⟨x0, x1⟩, hx⟩ := hax .x
  obtain ⟨⟨y0, y1⟩, hy⟩ := hax .y
  obtain ⟨⟨z0, z1⟩, hz⟩ := hax .z
  obtain ⟨⟨m0, m1⟩, hm⟩ := hax .m
  rw [calculateGboxCartesian, if_neg (by omega), hx, hy, hz, hm]
  rfl

/-- The reference calculator's box is exact on a tree without NaN ordinates. -/
theorem calculateGboxCartesian_isExactFor {g : Lwgeom} {b : Gbox} (hnan : NanFree g.flags g.ordinates)
    (h : calculateGboxCartesian g = some b) : b.IsExactFor g := by
  unfold calculateGboxCartesian at h
  split at h
  · cases h
  split at h
  · rename_i xmin xmax ymin ymax zmin zmax mmin mmax hx hy hz hm
    cases h
    have hax : ∀ a lo hi, axisExtremes g a = some (lo, hi) → a.present g.flags →
        IsExtremes (g.ordinates (a.index g.flags)) lo hi := fun a lo hi he hp => by
      rw [axisExtremes, if_pos hp] at he
      exact extremes_isExtremes he (hnan a hp)
    refine ⟨rfl, rfl, rfl, fun a ha => ?_⟩
    cases a
    · exact hax _ _ _ hx ha
    · exact hax _ _ _ hy ha
    · exact hax _ _ _ hz ha
    · exact hax _ _ _ hm ha
  · cases h

/-- Rounding out a box that bounds the ordinates gives their extremes rounded out. -/
theorem gboxFloatRound_roundsOut {b : Gbox} {vals : Nat → List UInt64} (hb : b.Bounds b.flags vals) :
    (gboxFloatRound b).RoundsOut b.flags vals := fun a ha => by
  refine ⟨b.lo a, b.hi a, hb a ha, ?_⟩
  cases a <;> simp only [Axis.present, decide_eq_true_eq] at ha <;>
    simp [gboxFloatRound, Gbox.lo, Gbox.hi, ha]

/-! The peek's reads, one lemma per helper: each view of `dptr` lands on the
ordinate of the point array the body holds there. -/

theorem dataDouble_of_holdsAt {R : List UInt8} {i p : Nat} {bytes : List UInt8}
    (h : HoldsAt R (8 + 8 * i) bytes) (hp : 8 * p + 8 ≤ bytes.length) :
    dataDouble R (i + p) = .ok (UInt64.ofNat (ofLe ((bytes.drop (8 * p)).take 8))) := by
  have hr := readBytes_of_holdsAt (h.sub (8 * p) 8 hp)
  rw [List.length_take, List.length_drop, Nat.min_eq_left (by omega)] at hr
  rw [dataDouble, show 8 + 8 * (i + p) = 8 + 8 * i + 8 * p by omega, hr]

section
variable {R : List UInt8} {pa : PointArray} {i : Nat}

theorem PointArray.dataDouble_ordinate (h : HoldsAt R (8 + 8 * i) pa.serializedPointlist) {j k idx : Nat}
    (hj : j < pa.npoints) (hk : k < flagsNdims pa.flags) (hidx : idx = i + (j * flagsNdims pa.flags + k)) :
    dataDouble R idx = .ok (pa.ordinate j k) := by
  rw [hidx, dataDouble_of_holdsAt h (ordinate_window hj hk)]; rfl

theorem peekCoordinate_eq {flags : UInt8} (gbox : Gbox) (h : HoldsAt R (8 + 8 * i) pa.serializedPointlist)
    (hn : pa.npoints = 1) (hzm : flagsGetZm pa.flags = flagsGetZm flags) :
    ∃ b, peekCoordinate R flags gbox i = .ok (gboxFloatRound b) ∧ b.flags = flags ∧
      Axis.All flags fun a k => b.lo a = pa.ordinate 0 k ∧ b.hi a = pa.ordinate 0 k := by
  have rd : ∀ k, k < flagsNdims flags → dataDouble R (i + k) = .ok (pa.ordinate 0 k) := fun k hk =>
    pa.dataDouble_ordinate h (by omega) (by rwa [flagsNdims_eq_of_zm hzm]) (by simp)
  have := flagsGetZ_le_one flags; have := flagsGetM_le_one flags
  simp only [flagsNdims] at rd
  have rx : dataDouble R i = .ok (pa.ordinate 0 0) := rd 0 (by omega)
  rw [peekCoordinate, rx, ok_bind, rd 1 (by omega), ok_bind]
  rcases (show flagsGetZ flags = 0 ∨ flagsGetZ flags = 1 by omega) with hz | hz <;>
  rcases (show flagsGetM flags = 0 ∨ flagsGetM flags = 1 by omega) with hm | hm <;>
    simp only [hz, hm, Nat.one_ne_zero, Nat.zero_ne_one, reduceIte, pure_bind] at rd ⊢
  · exact ⟨_, rfl, rfl, Axis.All.intro ⟨rfl, rfl⟩ ⟨rfl, rfl⟩ (by omega) (by omega)⟩
  · rw [rd 2 (by omega), ok_bind]
    exact ⟨_, rfl, rfl, Axis.All.intro ⟨rfl, rfl⟩ ⟨rfl, rfl⟩ (by omega) (fun _ => by rw [hz]; exact ⟨rfl, rfl⟩)⟩
  · rw [rd 2 (by omega), ok_bind, pure_bind]
    exact ⟨_, rfl, rfl, Axis.All.intro ⟨rfl, rfl⟩ ⟨rfl, rfl⟩ (fun _ => ⟨rfl, rfl⟩) (by omega)⟩
  · rw [rd 2 (by omega), ok_bind, pure_bind, rd 3 (by omega), ok_bind]
    exact ⟨_, rfl, rfl, Axis.All.intro ⟨rfl, rfl⟩ ⟨rfl, rfl⟩ (fun _ => ⟨rfl, rfl⟩) (fun _ => by rw [hz]; exact ⟨rfl, rfl⟩)⟩

/-- One axis of a two-point array: the views at `i + k` and `i + k + ndims` are
the axis's ordinates of the two points. -/
theorem peekAxis_eq {flags : UInt8} (h : HoldsAt R (8 + 8 * i) pa.serializedPointlist) (hn : pa.npoints = 2)
    (hzm : flagsGetZm pa.flags = flagsGetZm flags) {k idx : Nat} (hk : k < flagsNdims flags)
    (hidx : idx = i + k) :
    peekAxis R (flagsNdims flags) idx =
      .ok (fpMin (pa.ordinate 0 k) (pa.ordinate 1 k), fpMax (pa.ordinate 0 k) (pa.ordinate 1 k)) := by
  have hnd := flagsNdims_eq_of_zm hzm
  have r0 : dataDouble R idx = .ok (pa.ordinate 0 k) :=
    pa.dataDouble_ordinate h (by omega) (by omega) (by simp [hidx])
  have r1 : dataDouble R (idx + flagsNdims flags) = .ok (pa.ordinate 1 k) :=
    pa.dataDouble_ordinate h (by omega) (by omega) (by rw [hidx, hnd]; omega)
  rw [peekAxis, r0, ok_bind, r1, ok_bind]; rfl

theorem peekSegment_eq {flags : UInt8} (gbox : Gbox) (h : HoldsAt R (8 + 8 * i) pa.serializedPointlist)
    (hn : pa.npoints = 2) (hzm : flagsGetZm pa.flags = flagsGetZm flags) :
    ∃ b, peekSegment R flags gbox i = .ok (gboxFloatRound b) ∧ b.flags = flags ∧
      Axis.All flags fun a k => b.lo a = fpMin (pa.ordinate 0 k) (pa.ordinate 1 k) ∧
        b.hi a = fpMax (pa.ordinate 0 k) (pa.ordinate 1 k) := by
  have ax := fun k idx => @peekAxis_eq R pa i flags h hn hzm k idx
  have := flagsGetZ_le_one flags; have := flagsGetM_le_one flags
  have hnd : flagsNdims flags = 2 + flagsGetZ flags + flagsGetM flags := rfl
  simp only [peekSegment]
  rw [ax 0 i (by omega) rfl, ok_bind, ax 1 (i + 1) (by omega) rfl, ok_bind]
  rcases (show flagsGetZ flags = 0 ∨ flagsGetZ flags = 1 by omega) with hz | hz <;>
  rcases (show flagsGetM flags = 0 ∨ flagsGetM flags = 1 by omega) with hm | hm <;>
    simp only [hz, hm, Nat.one_ne_zero, Nat.zero_ne_one, reduceIte, pure_bind] at hnd ⊢
  · exact ⟨_, rfl, rfl, Axis.All.intro ⟨rfl, rfl⟩ ⟨rfl, rfl⟩ (by omega) (by omega)⟩
  · rw [ax 2 (i + 2) (by omega) rfl, ok_bind]
    exact ⟨_, rfl, rfl, Axis.All.intro ⟨rfl, rfl⟩ ⟨rfl, rfl⟩ (by omega) (fun _ => by rw [hz]; exact ⟨rfl, rfl⟩)⟩
  · rw [ax 2 (i + 2) (by omega) rfl, ok_bind, pure_bind]
    exact ⟨_, rfl, rfl, Axis.All.intro ⟨rfl, rfl⟩ ⟨rfl, rfl⟩ (fun _ => ⟨rfl, rfl⟩) (by omega)⟩
  · rw [ax 2 (i + 2) (by omega) rfl, ok_bind, pure_bind, ax 3 (i + 3) (by omega) rfl, ok_bind]
    exact ⟨_, rfl, rfl, Axis.All.intro ⟨rfl, rfl⟩ ⟨rfl, rfl⟩ (fun _ => ⟨rfl, rfl⟩) (fun _ => by rw [hz]; exact ⟨rfl, rfl⟩)⟩

end

end GSerialized
