import GSerialized.Encode

/-! The body layout of the format, stated once over the tree, and the writer
and the size calculator measured against it. Both agree with the layout on the
trees where no `uint32_t` product of theirs wraps. -/
namespace GSerialized

namespace PointArray

theorem serializedPointlist_eq_nil (pa : PointArray) (h : pa.npoints = 0) :
    pa.serializedPointlist = [] := by
  rw [← List.length_eq_zero, pa.length_eq, h, Nat.zero_mul]

theorem written_eq (pa : PointArray) {k : Nat} (h : pa.npoints * ptarrayPointSize pa.flags ≤ k) :
    (if pa.npoints > 0 then pa.serializedPointlist.take k else []) = pa.serializedPointlist := by
  split
  · exact List.take_of_length_le (pa.length_eq ▸ h)
  · exact (pa.serializedPointlist_eq_nil (by omega)).symm

end PointArray

theorem ordinateBytes_eq (n d : Nat) (h : n * (8 * d) < 2 ^ 32) : n * d % 2 ^ 32 * 8 = n * (8 * d) := by
  rw [Nat.mul_left_comm] at *; omega

theorem ptarrayPointSize_eq_of_zm {a b : UInt8} (h : flagsGetZm a = flagsGetZm b) :
    ptarrayPointSize a = ptarrayPointSize b := by
  rw [ptarrayPointSize, ptarrayPointSize, flagsNdims_eq_of_zm h]

namespace Lwgeom

/-- The body of a node as the format lays it out: the type word and the count
word; for a polygon the ring counts, a zero word when their number is odd, and
the rings' ordinates; for a collection its children's bodies. -/
def layout : Lwgeom → List UInt8
  | point _ _ _ pa => le32 pointType ++ le32 pa.npoints ++ pa.serializedPointlist
  | line _ _ _ pa => le32 lineType ++ le32 pa.npoints ++ pa.serializedPointlist
  | polygon _ _ _ rs => le32 polygonType ++ le32 rs.length ++ polyRingTable rs ++
      (rs.map PointArray.serializedPointlist).flatten
  | triangle _ _ _ pa => le32 triangleType ++ le32 pa.npoints ++ pa.serializedPointlist
  | circString _ _ _ pa => le32 circStringType ++ le32 pa.npoints ++ pa.serializedPointlist
  | collection t _ _ _ gs => le32 t ++ le32 gs.length ++ layoutList gs
where layoutList : List Lwgeom → List UInt8
  | [] => []
  | g :: gs => layout g ++ layoutList gs

/-- No `uint32_t` product of the codec wraps at the node: its ring count words
and each point array's ordinates stay below `2^32` bytes. -/
def fitsNode (g : Lwgeom) : Bool :=
  g.pointArrays.length * 4 < 2 ^ 32 &&
    g.pointArrays.all fun pa => pa.npoints * ptarrayPointSize g.flags < 2 ^ 32

def noWrap : Lwgeom → Bool := all fitsNode

/-- Each point array's ordinates, the `uint32_t` product the writers copy,
stay below `2^32` bytes: the part of `noWrap` the writers need. -/
def runsFit : Lwgeom → Bool := all fun n => n.pointArrays.all fun pa => pa.npoints * ptarrayPointSize n.flags < 2 ^ 32

theorem runsFit_node {g : Lwgeom} (hw : g.runsFit) :
    (∀ pa ∈ g.pointArrays, pa.npoints * ptarrayPointSize g.flags < 2 ^ 32) ∧ ∀ c ∈ g.geoms, c.runsFit := by
  have h := all_self hw
  simp only [List.all_eq_true, decide_eq_true_eq] at h
  exact ⟨h, fun c hc => all_child hw hc⟩

theorem runsFit_of_noWrap {g : Lwgeom} (hw : g.noWrap) : g.runsFit :=
  all_imp (fun n h => by simp only [fitsNode, Bool.and_eq_true] at h; exact h.2) hw

@[simp] theorem layout_setBbox (g : Lwgeom) (b : Option Gbox) : (g.setBbox b).layout = g.layout := by
  cases g <;> rfl
@[simp] theorem layout_setFlags (g : Lwgeom) (f : UInt8) : (g.setFlags f).layout = g.layout := by
  cases g <;> rfl

theorem noWrap_setBbox (g : Lwgeom) (b : Option Gbox) : (g.setBbox b).noWrap = g.noWrap :=
  all_congr_root (geoms_setBbox g b) (by simp only [fitsNode, pointArrays_setBbox, flags_setBbox])

theorem noWrap_setFlags (g : Lwgeom) {f : UInt8} (h : flagsGetZm f = flagsGetZm g.flags) :
    (g.setFlags f).noWrap = g.noWrap :=
  all_congr_root (geoms_setFlags g f) (by
    simp only [fitsNode, pointArrays_setFlags, flags_setFlags, ptarrayPointSize_eq_of_zm h])

theorem runsFit_setBbox (g : Lwgeom) (b : Option Gbox) : (g.setBbox b).runsFit = g.runsFit :=
  all_congr_root (geoms_setBbox g b) (by simp only [pointArrays_setBbox, flags_setBbox])

theorem runsFit_setFlags (g : Lwgeom) {f : UInt8} (h : flagsGetZm f = flagsGetZm g.flags) :
    (g.setFlags f).runsFit = g.runsFit :=
  all_congr_root (geoms_setFlags g f) (by
    simp only [pointArrays_setFlags, flags_setFlags, ptarrayPointSize_eq_of_zm h])

theorem noWrap_node {g : Lwgeom} (hw : g.noWrap) :
    g.pointArrays.length * 4 < 2 ^ 32 ∧
      (∀ pa ∈ g.pointArrays, pa.npoints * ptarrayPointSize g.flags < 2 ^ 32) ∧
      ∀ c ∈ g.geoms, c.noWrap := by
  have h := all_self hw
  simp only [fitsNode, Bool.and_eq_true, decide_eq_true_eq, List.all_eq_true] at h
  exact ⟨h.1, h.2, fun c hc => all_child hw hc⟩

end Lwgeom

section
variable {f : UInt8} {pa : PointArray}

theorem gserializedFromLwpoint_eq (hzm : flagsGetZm pa.flags = flagsGetZm f) (h1 : pa.npoints ≤ 1) :
    gserializedFromLwpoint f pa = .ok (le32 pointType ++ le32 pa.npoints ++ pa.serializedPointlist) := by
  rw [gserializedFromLwpoint, if_neg (by omega), pa.written_eq]
  simpa using Nat.mul_le_mul_right (ptarrayPointSize pa.flags) h1

theorem gserializedFromLwline_eq (hzm : flagsGetZm pa.flags = flagsGetZm f)
    (hw : pa.npoints * ptarrayPointSize f < 2 ^ 32) :
    gserializedFromLwline f pa = .ok (le32 lineType ++ le32 pa.npoints ++ pa.serializedPointlist) := by
  rw [ptarrayPointSize_eq_of_zm hzm.symm] at hw
  rw [gserializedFromLwline, if_neg (by rw [(zm_eq_iff.mp hzm).1]; exact not_not_intro rfl),
    Nat.mod_eq_of_lt hw, pa.written_eq (le_refl _)]

def lineWithMeasuredPoints : Lwgeom :=
  .line 0 none 0 ⟨0x02, 2, List.replicate 48 0, by decide, by decide⟩

/-- `gserialized_from_lwline` compares only the Z bits. On a line of known kind
whose array has an M the line lacks, it raises no dimension error and writes 56
bytes where the size calculator counted 40. -/
theorem gserializedFromLwline_checksOnlyZ :
    lineWithMeasuredPoints.knownKind ∧ lineWithMeasuredPoints.pointAtMostOne ∧
      lineWithMeasuredPoints.zmUniform = false ∧
      (∃ body, gserializedFromLwgeomAny lineWithMeasuredPoints = .ok body ∧ body.length = 56) ∧
      gserializedFromAnySize lineWithMeasuredPoints = .ok 40 :=
  ⟨rfl, rfl, rfl, ⟨_, rfl, rfl⟩, rfl⟩

theorem gserializedFromPointList_eq (type : Nat) (kind : String)
    (hzm : flagsGetZm pa.flags = flagsGetZm f) (hw : pa.npoints * ptarrayPointSize f < 2 ^ 32) :
    gserializedFromPointList type kind f pa =
      .ok (le32 type ++ le32 pa.npoints ++ pa.serializedPointlist) := by
  rw [ptarrayPointSize_eq_of_zm hzm.symm] at hw
  rw [gserializedFromPointList, if_neg (by omega), Nat.mod_eq_of_lt hw, pa.written_eq (le_refl _)]

theorem gserializedFromLwpoly_ordinates_eq (rs : List PointArray)
    (h : ∀ r ∈ rs, flagsGetZm r.flags = flagsGetZm f ∧ r.npoints * ptarrayPointSize f < 2 ^ 32) :
    gserializedFromLwpoly.ordinates f rs = .ok (rs.map PointArray.serializedPointlist).flatten := by
  induction rs with
  | nil => rfl
  | cons r rs ih =>
    obtain ⟨hzm, hw⟩ := h r (List.mem_cons_self _ _)
    have hlen : r.serializedPointlist.length ≤ r.npoints * (8 * flagsNdims f) % 2 ^ 32 := by
      show _ ≤ r.npoints * ptarrayPointSize f % 2 ^ 32
      rw [Nat.mod_eq_of_lt hw, r.length_eq, ptarrayPointSize_eq_of_zm hzm]
    rw [gserializedFromLwpoly.ordinates, if_neg (by omega),
      ih fun r' hr' => h r' (List.mem_cons_of_mem _ hr'), List.take_of_length_le hlen]
    rfl

end

theorem gserializedFromLwgeomAny_subgeoms_eq (f : UInt8) (gs : List Lwgeom)
    (h : ∀ g ∈ gs, flagsGetZm g.flags = flagsGetZm f ∧ gserializedFromLwgeomAny g = .ok g.layout) :
    gserializedFromLwgeomAny.subgeoms f gs = .ok (Lwgeom.layout.layoutList gs) := by
  induction gs with
  | nil => rfl
  | cons g gs ih =>
    obtain ⟨hzm, hg⟩ := h g (List.mem_cons_self _ _)
    rw [gserializedFromLwgeomAny.subgeoms, if_neg (by omega), hg,
      ih fun g' hg' => h g' (List.mem_cons_of_mem _ hg')]
    rfl

section
variable {A : Nat → Nat → Bool}

/-- On a valid tree whose runs fit, the writer writes the layout. -/
theorem gserializedFromLwgeomAny_eq_layout (g : Lwgeom) (hv : g.valid A) (hw : g.runsFit) :
    gserializedFromLwgeomAny g = .ok g.layout := by
  have one := @List.mem_singleton_self PointArray
  induction g using Lwgeom.induction with
  | point f b s pa =>
    obtain ⟨-, -, hzm, -, h1, -, -⟩ := Lwgeom.valid_node hv
    exact gserializedFromLwpoint_eq (hzm pa (one _)) (of_decide_eq_true h1)
  | line f b s pa =>
    exact gserializedFromLwline_eq ((Lwgeom.valid_node hv).2.2.1 pa (one _))
      ((Lwgeom.runsFit_node hw).1 pa (one _))
  | polygon f b s rs =>
    exact congrArg (Except.map _) (gserializedFromLwpoly_ordinates_eq rs fun r hr =>
      ⟨(Lwgeom.valid_node hv).2.2.1 r hr, (Lwgeom.runsFit_node hw).1 r hr⟩)
  | triangle f b s pa =>
    exact gserializedFromPointList_eq _ _ ((Lwgeom.valid_node hv).2.2.1 pa (one _))
      ((Lwgeom.runsFit_node hw).1 pa (one _))
  | circString f b s pa =>
    exact gserializedFromPointList_eq _ _ ((Lwgeom.valid_node hv).2.2.1 pa (one _))
      ((Lwgeom.runsFit_node hw).1 pa (one _))
  | collection t f b s gs ih =>
    obtain ⟨hk, -, -, hzc, -, -, hvc⟩ := Lwgeom.valid_node hv
    rw [gserializedFromLwgeomAny, if_pos (show isCollectionType t from hk),
      gserializedFromLwgeomAny_subgeoms_eq f gs
        fun c hc => ⟨hzc c hc, ih c hc (hvc c hc) ((Lwgeom.runsFit_node hw).2 c hc)⟩]
    rfl

theorem ordinates_length {f : UInt8} {pa : PointArray} (hzm : flagsGetZm pa.flags = flagsGetZm f)
    (hw : pa.npoints * ptarrayPointSize f < 2 ^ 32) :
    pa.npoints * flagsNdims f % 2 ^ 32 * 8 = pa.serializedPointlist.length := by
  rw [ordinateBytes_eq _ _ hw, pa.length_eq, ptarrayPointSize_eq_of_zm hzm]; rfl

theorem length_polyRingTable (rs : List PointArray) :
    (polyRingTable rs).length = 4 * rs.length + if rs.length % 2 = 1 then 4 else 0 := by
  have : ((rs.map fun ring => le32 ring.npoints).flatten).length = 4 * rs.length := by
    induction rs with
    | nil => rfl
    | cons r rs ih => simp only [List.map_cons, List.flatten_cons, List.length_append, ih,
        length_le32, List.length_cons]; omega
  rw [polyRingTable, List.length_append, this]
  split <;> simp

theorem gserializedFromLwpolySize_eq (f : UInt8) (rs : List PointArray)
    (h : ∀ r ∈ rs, flagsGetZm r.flags = flagsGetZm f ∧ r.npoints * ptarrayPointSize f < 2 ^ 32) :
    gserializedFromLwpolySize f rs = (le32 polygonType ++ le32 rs.length ++ polyRingTable rs ++
      (rs.map PointArray.serializedPointlist).flatten).length := by
  have hsum : (rs.map fun r => 4 + r.npoints * flagsNdims f % 2 ^ 32 * 8).sum =
      4 * rs.length + ((rs.map PointArray.serializedPointlist).flatten).length := by
    induction rs with
    | nil => rfl
    | cons r rs ih =>
      have hr := h r (List.mem_cons_self _ _)
      simp only [List.map_cons, List.sum_cons, List.flatten_cons, List.length_append,
        List.length_cons, ordinates_length hr.1 hr.2, ih fun r' hr' => h r' (List.mem_cons_of_mem _ hr')]
      omega
  simp only [gserializedFromLwpolySize, hsum, List.length_append, length_le32, length_polyRingTable]
  omega

theorem gserializedFromAnySize_subgeomsSize_eq (gs : List Lwgeom)
    (h : ∀ g ∈ gs, gserializedFromAnySize g = .ok g.layout.length) :
    gserializedFromAnySize.subgeomsSize gs = .ok (Lwgeom.layout.layoutList gs).length := by
  induction gs with
  | nil => rfl
  | cons g gs ih =>
    rw [gserializedFromAnySize.subgeomsSize, h g (List.mem_cons_self _ _),
      ih fun g' hg' => h g' (List.mem_cons_of_mem _ hg'), Lwgeom.layout.layoutList, List.length_append]
    rfl

theorem ptarrayNodeSize_eq {f : UInt8} {pa : PointArray} (hzm : flagsGetZm pa.flags = flagsGetZm f)
    (hw : pa.npoints * ptarrayPointSize f < 2 ^ 32) (type : Nat) :
    ptarrayNodeSize f pa = (le32 type ++ le32 pa.npoints ++ pa.serializedPointlist).length := by
  rw [ptarrayNodeSize, ordinates_length hzm hw]
  simp only [List.length_append, length_le32]

/-- On a valid tree whose runs fit, the size calculator counts the layout. -/
theorem gserializedFromAnySize_eq_length (g : Lwgeom) (hv : g.valid A) (hw : g.runsFit) :
    gserializedFromAnySize g = .ok g.layout.length := by
  have leaf : ∀ {g : Lwgeom} {pa : PointArray}, g.valid A → g.runsFit → g.pointArrays = [pa] →
      ∀ t, ptarrayNodeSize g.flags pa = (le32 t ++ le32 pa.npoints ++ pa.serializedPointlist).length :=
    fun hv hw h => ptarrayNodeSize_eq ((Lwgeom.valid_node hv).2.2.1 _ (h ▸ List.mem_singleton_self _))
      ((Lwgeom.runsFit_node hw).1 _ (h ▸ List.mem_singleton_self _))
  induction g using Lwgeom.induction with
  | point f b s pa => exact congrArg Except.ok (leaf hv hw rfl _)
  | line f b s pa => exact congrArg Except.ok (leaf hv hw rfl _)
  | polygon f b s rs =>
    exact congrArg Except.ok (gserializedFromLwpolySize_eq f rs fun r hr =>
      ⟨(Lwgeom.valid_node hv).2.2.1 r hr, (Lwgeom.runsFit_node hw).1 r hr⟩)
  | triangle f b s pa => exact congrArg Except.ok (leaf hv hw rfl _)
  | circString f b s pa => exact congrArg Except.ok (leaf hv hw rfl _)
  | collection t f b s gs ih =>
    obtain ⟨hk, -, -, -, -, -, hvc⟩ := Lwgeom.valid_node hv
    rw [gserializedFromAnySize, if_pos (show isCollectionType t from hk),
      gserializedFromAnySize_subgeomsSize_eq gs
        fun c hc => ih c hc (hvc c hc) ((Lwgeom.runsFit_node hw).2 c hc)]
    simp only [Except.map, Lwgeom.layout, List.length_append, length_le32]

end

end GSerialized
