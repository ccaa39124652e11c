import GSerialized.Decode
import GSerialized.Layout

/-! Reading a layout back: the tree `lwgeom_from_gserialized_buffer` builds from
the body of a valid node, at any offset of any buffer that holds that body, and
the bytes it reports spanning. -/
namespace GSerialized

theorem ok_bind {α β : Type} (a : α) (f : α → Except LwError β) : (Except.ok a >>= f) = f a := rfl

theorem bind_eq_ok {α β : Type} {m : Except LwError α} {k : α → Except LwError β} {b : β}
    (h : m >>= k = .ok b) : ∃ a, m = .ok a ∧ k a = .ok b := by
  cases m with
  | error e => cases h
  | ok a => exact ⟨a, rfl, h⟩

theorem gserializedGetUint32T_of_holdsAt {buf : List UInt8} {off n : Nat} (h : HoldsAt buf off (le32 n))
    (hn : n < 2 ^ 32) : gserializedGetUint32T buf off = .ok (UInt32.ofNat n) := by
  rw [gserializedGetUint32T, readU32_of_holdsAt h hn]

theorem toNat_ofNat_u32 {n : Nat} (hn : n < 2 ^ 32) : (UInt32.ofNat n).toNat = n :=
  UInt32.toNat_ofNat_of_lt hn

theorem ofNat_u32_pos {n : Nat} (hn : n < 2 ^ 32) : UInt32.ofNat n > 0 ↔ n > 0 := by
  show 0 < (UInt32.ofNat n).toNat ↔ _
  rw [toNat_ofNat_u32 hn]

theorem holdsAt_words {buf : List UInt8} {off t n : Nat} {rest : List UInt8}
    (h : HoldsAt buf off (le32 t ++ le32 n ++ rest)) :
    HoldsAt buf off (le32 t) ∧ HoldsAt buf (off + 4) (le32 n) ∧ HoldsAt buf (off + 8) rest := by
  obtain ⟨h, hr⟩ := holdsAt_append.mp h
  obtain ⟨ht, hn⟩ := holdsAt_append.mp h
  simp only [List.length_append, length_le32] at hn hr
  exact ⟨ht, hn, hr⟩

namespace PointArray

/-- The array the deserializer builds over these ordinates when it reads them
under `flags`: the same points, flagged with the Z and M of `flags`. The
arrays of a valid tree always have the size that needs. -/
def view (pa : PointArray) (flags : UInt8) : PointArray :=
  if h : ptarrayPointSize (gflags (flagsGetZ flags) (flagsGetM flags)) = ptarrayPointSize pa.flags then
    ⟨gflags (flagsGetZ flags) (flagsGetM flags), pa.npoints, pa.serializedPointlist, pa.npoints_lt,
      h ▸ pa.length_eq⟩
  else pa

theorem pointSize_gflags {pa : PointArray} {flags : UInt8} (hzm : flagsGetZm pa.flags = flagsGetZm flags) :
    ptarrayPointSize (gflags (flagsGetZ flags) (flagsGetM flags)) = ptarrayPointSize pa.flags := by
  obtain ⟨hz, hm⟩ := zm_eq_iff.mp hzm
  simp only [ptarrayPointSize, flagsNdims, flagsGetZ_gflags, flagsGetM_gflags, hz, hm]

theorem view_eq {pa : PointArray} {flags : UInt8} (hzm : flagsGetZm pa.flags = flagsGetZm flags) :
    pa.view flags = ⟨gflags (flagsGetZ flags) (flagsGetM flags), pa.npoints, pa.serializedPointlist,
      pa.npoints_lt, pointSize_gflags hzm ▸ pa.length_eq⟩ := by
  rw [view, dif_pos (pointSize_gflags hzm)]

@[simp] theorem view_npoints (pa : PointArray) (flags : UInt8) : (pa.view flags).npoints = pa.npoints := by
  unfold view; split <;> rfl
@[simp] theorem view_serializedPointlist (pa : PointArray) (flags : UInt8) :
    (pa.view flags).serializedPointlist = pa.serializedPointlist := by
  unfold view; split <;> rfl

theorem flagsGetZm_view {pa : PointArray} {flags : UInt8} (hzm : flagsGetZm pa.flags = flagsGetZm flags) :
    flagsGetZm (pa.view flags).flags = flagsGetZm flags := by
  rw [view_eq hzm]
  simp only [flagsGetZm, flagsGetZ_gflags, flagsGetM_gflags]

end PointArray

namespace Lwgeom

/-- The tree `lwgeom_from_gserialized_buffer` builds from a node's layout read
under `flags`: every node takes those flags, no box and the unknown SRID, and
its arrays become views; children are read without the box bit. -/
def decoded (flags : UInt8) : Lwgeom → Lwgeom
  | point _ _ _ pa => point flags none sridUnknown (pa.view flags)
  | line _ _ _ pa => line flags none sridUnknown (pa.view flags)
  | polygon _ _ _ rs => polygon flags none sridUnknown (rs.map (·.view flags))
  | triangle _ _ _ pa => triangle flags none sridUnknown (pa.view flags)
  | circString _ _ _ pa => circString flags none sridUnknown (pa.view flags)
  | collection t _ _ _ gs => collection t flags none sridUnknown (decodedList (flagsSetBbox flags false) gs)
where decodedList (flags : UInt8) : List Lwgeom → List Lwgeom
  | [] => []
  | g :: gs => decoded flags g :: decodedList flags gs

@[simp] theorem type_decoded (flags : UInt8) (g : Lwgeom) : (g.decoded flags).type = g.type := by
  cases g <;> rfl
@[simp] theorem flags_decoded (flags : UInt8) (g : Lwgeom) : (g.decoded flags).flags = flags := by
  cases g <;> rfl

@[simp] theorem decoded_setType (flags : UInt8) (g : Lwgeom) :
    (g.decoded flags).setType g.type = g.decoded flags := by
  cases g <;> rfl
@[simp] theorem decoded_setFlags (flags : UInt8) (g : Lwgeom) :
    (g.decoded flags).setFlags flags = g.decoded flags := by
  cases g <;> rfl

theorem decodedList_eq_map (flags : UInt8) (gs : List Lwgeom) :
    decoded.decodedList flags gs = gs.map (decoded flags) := by
  induction gs with
  | nil => rfl
  | cons g gs ih => rw [decoded.decodedList, ih, List.map_cons]

theorem type_lt_of_knownKind {g : Lwgeom} (hk : g.knownKind) : g.type < 2 ^ 32 := by
  cases g with
  | collection t => exact lt_trans (isCollectionType_spec hk).1 (by decide)
  | _ => simp only [type, pointType, lineType, polygonType, triangleType, circStringType]; omega

theorem layout_length_ge (g : Lwgeom) : 8 ≤ g.layout.length := by
  cases g <;> simp only [layout, List.length_append, length_le32] <;> omega

theorem layout_length_le {c : Lwgeom} {gs : List Lwgeom} (hc : c ∈ gs) :
    c.layout.length ≤ (layout.layoutList gs).length := by
  induction gs with
  | nil => cases hc
  | cons g gs ih =>
    rw [layout.layoutList, List.length_append]
    rcases List.mem_cons.mp hc with rfl | hc
    · omega
    · have := ih hc; omega

theorem pointArrays_decoded (flags : UInt8) (g : Lwgeom) :
    (g.decoded flags).pointArrays = g.pointArrays.map (·.view flags) := by
  cases g <;> rfl

theorem shapeList_map {F : Lwgeom → Lwgeom} {gs : List Lwgeom} (h : ∀ c ∈ gs, (F c).shape = c.shape) :
    shape.shapeList (gs.map F) = shape.shapeList gs := by
  induction gs with
  | nil => rfl
  | cons g gs ih =>
    rw [List.map_cons, shape.shapeList, shape.shapeList, h g (List.mem_cons_self _ _),
      ih fun c hc => h c (List.mem_cons_of_mem _ hc)]

theorem shape_decoded (flags : UInt8) (g : Lwgeom) : (g.decoded flags).shape = g.shape := by
  induction g using Lwgeom.induction generalizing flags with
  | collection t f b s gs ih =>
    simp only [decoded, shape, decodedList_eq_map, shapeList_map fun c hc => ih c hc _]
  | polygon f b s rs => simp [decoded, shape, pointArrays, type, Function.comp_def]
  | _ => simp [decoded, shape, pointArrays, type]

theorem zmIs_decoded {A : Nat → Nat → Bool} {g : Lwgeom} (hv : g.valid A) {flags : UInt8}
    (hzm : flagsGetZm g.flags = flagsGetZm flags) : (g.decoded flags).zmIs (flagsGetZm flags) := by
  induction g using Lwgeom.induction generalizing flags with
  | collection t f b s gs ih =>
    obtain ⟨-, -, -, hzc, -, -, hvc⟩ := valid_node hv
    rw [zmIs, all_iff]
    refine ⟨by simp only [flags_decoded, pointArrays_decoded]; simp [pointArrays], fun c hc => ?_⟩
    simp only [decoded, geoms, decodedList_eq_map, List.mem_map] at hc
    obtain ⟨c, hc, rfl⟩ := hc
    have := ih c hc (hvc c hc) (show flagsGetZm c.flags = flagsGetZm (flagsSetBbox flags false) by
      rw [hzc c hc, hzm, flagsGetZm_setBbox])
    rwa [flagsGetZm_setBbox] at this
  | _ =>
    have hzpa := (valid_node hv).2.2.1
    rw [zmIs, all_iff]
    refine ⟨?_, by simp [decoded, geoms]⟩
    simp only [flags_decoded, pointArrays_decoded, List.all_map, Bool.and_eq_true, decide_eq_true_eq,
      true_and, List.all_eq_true, Function.comp_apply]
    exact fun pa hpa => PointArray.flagsGetZm_view ((hzpa pa hpa).trans hzm)

theorem type_prefix_layout (g : Lwgeom) : le32 g.type <+: g.layout := by
  cases g <;> simp only [layout, List.append_assoc] <;> exact List.prefix_append _ _

theorem holdsAt_type {buf : List UInt8} {off : Nat} {g : Lwgeom} (h : HoldsAt buf off g.layout) :
    HoldsAt buf off (le32 g.type) :=
  ⟨h.1, g.type_prefix_layout.trans h.2⟩

end Lwgeom

section
variable {buf : List UInt8} {off : Nat} {flags : UInt8} {pa : PointArray}

theorem ptarrayConstructReferenceData_of_holdsAt (h : HoldsAt buf off pa.serializedPointlist)
    (hzm : flagsGetZm pa.flags = flagsGetZm flags) :
    ptarrayConstructReferenceData buf (flagsGetZ flags) (flagsGetM flags) (UInt32.ofNat pa.npoints) off =
      .ok (pa.view flags) := by
  have hn := toNat_ofNat_u32 pa.npoints_lt
  have hlen : pa.npoints * ptarrayPointSize (gflags (flagsGetZ flags) (flagsGetM flags)) =
      pa.serializedPointlist.length := by rw [PointArray.pointSize_gflags hzm, pa.length_eq]
  rw [ptarrayConstructReferenceData, dif_pos (by rw [hn, hlen]; exact h.le_length),
    PointArray.view_eq hzm]
  congr 2
  rw [hn, hlen, h.take_drop]

theorem ptarrayConstructEmpty_eq (hzm : flagsGetZm pa.flags = flagsGetZm flags) (h0 : pa.npoints = 0) :
    ptarrayConstructEmpty (flagsGetZ flags) (flagsGetM flags) = pa.view flags := by
  rw [PointArray.view_eq hzm, ptarrayConstructEmpty]
  congr 1
  · exact h0.symm
  · exact (pa.serializedPointlist_eq_nil h0).symm

theorem pointArray_of_holdsAt (h : HoldsAt buf off pa.serializedPointlist)
    (hzm : flagsGetZm pa.flags = flagsGetZm flags) (k : UInt32) (hk : pa.npoints > 0 → k = UInt32.ofNat pa.npoints) :
    (if UInt32.ofNat pa.npoints > 0 then
        ptarrayConstructReferenceData buf (flagsGetZ flags) (flagsGetM flags) k off
      else pure (ptarrayConstructEmpty (flagsGetZ flags) (flagsGetM flags))) = .ok (pa.view flags) := by
  split <;> rename_i hpos <;> rw [ofNat_u32_pos pa.npoints_lt] at hpos
  · rw [hk hpos, ptarrayConstructReferenceData_of_holdsAt h hzm]
  · rw [ptarrayConstructEmpty_eq hzm (by omega)]
    rfl

theorem lwpointFromGserializedBuffer_of_holdsAt
    (h : HoldsAt buf off (le32 pointType ++ le32 pa.npoints ++ pa.serializedPointlist))
    (hzm : flagsGetZm pa.flags = flagsGetZm flags) (h1 : pa.npoints ≤ 1) :
    lwpointFromGserializedBuffer buf off flags = .ok (.point flags none sridUnknown (pa.view flags),
      (le32 pointType ++ le32 pa.npoints ++ pa.serializedPointlist).length) := by
  obtain ⟨-, hn, hb⟩ := holdsAt_words h
  have hw : pa.npoints * ptarrayPointSize flags < 2 ^ 32 := by
    have := flagsNdims_le flags
    have := Nat.mul_le_mul h1 (show ptarrayPointSize flags ≤ 32 by unfold ptarrayPointSize; omega)
    omega
  rw [lwpointFromGserializedBuffer, gserializedGetUint32T_of_holdsAt hn pa.npoints_lt, ok_bind,
    pointArray_of_holdsAt hb hzm 1 fun _ => by rw [show pa.npoints = 1 by omega]; rfl, ok_bind,
    toNat_ofNat_u32 pa.npoints_lt, ordinates_length hzm hw]
  simp only [List.length_append, length_le32]
  rfl

theorem pointListFromGserializedBuffer_of_holdsAt (mk : UInt8 → Option Gbox → Int → PointArray → Lwgeom)
    (type : Nat) (h : HoldsAt buf off (le32 type ++ le32 pa.npoints ++ pa.serializedPointlist))
    (hzm : flagsGetZm pa.flags = flagsGetZm flags) (hw : pa.npoints * ptarrayPointSize flags < 2 ^ 32) :
    pointListFromGserializedBuffer mk buf off flags = .ok (mk flags none sridUnknown (pa.view flags),
      (le32 type ++ le32 pa.npoints ++ pa.serializedPointlist).length) := by
  obtain ⟨-, hn, hb⟩ := holdsAt_words h
  rw [pointListFromGserializedBuffer, gserializedGetUint32T_of_holdsAt hn pa.npoints_lt, ok_bind,
    pointArray_of_holdsAt hb hzm _ fun _ => rfl, ok_bind, toNat_ofNat_u32 pa.npoints_lt,
    Nat.mul_comm (flagsNdims flags), ordinates_length hzm hw]
  simp only [List.length_append, length_le32]
  rfl

theorem lwpolyRings_of_holdsAt (rs : List PointArray) {dptr optr : Nat}
    (hd : HoldsAt buf dptr (rs.map fun r => le32 r.npoints).flatten)
    (ho : HoldsAt buf optr (rs.map PointArray.serializedPointlist).flatten)
    (hzm : ∀ r ∈ rs, flagsGetZm r.flags = flagsGetZm flags) :
    lwpolyRings buf flags rs.length dptr optr =
      .ok (rs.map (·.view flags), optr + ((rs.map PointArray.serializedPointlist).flatten).length) := by
  induction rs generalizing dptr optr with
  | nil => rfl
  | cons r rs ih =>
    simp only [List.map_cons, List.flatten_cons] at hd ho
    obtain ⟨hn, hd⟩ := holdsAt_append.mp hd
    obtain ⟨hb, ho⟩ := holdsAt_append.mp ho
    have hr := hzm r (List.mem_cons_self _ _)
    have hstep : 8 * flagsNdims flags * (UInt32.ofNat r.npoints).toNat = r.serializedPointlist.length := by
      rw [toNat_ofNat_u32 r.npoints_lt, r.length_eq, ptarrayPointSize_eq_of_zm hr, ptarrayPointSize,
        Nat.mul_comm]
    rw [length_le32] at hd
    rw [List.length_cons, lwpolyRings, gserializedGetUint32T_of_holdsAt hn r.npoints_lt, ok_bind,
      ptarrayConstructReferenceData_of_holdsAt hb hr, ok_bind, hstep,
      ih hd ho fun r' hr' => hzm r' (List.mem_cons_of_mem _ hr')]
    simp only [List.map_cons, List.flatten_cons, List.length_append, Nat.add_assoc]
    rfl

theorem lwpolyOrdinateStart_eq (off : Nat) (rs : List PointArray) (h : rs.length * 4 < 2 ^ 32) :
    lwpolyOrdinateStart off rs.length = off + 8 + (polyRingTable rs).length := by
  rw [lwpolyOrdinateStart, length_polyRingTable, Nat.mod_eq_of_lt h]
  split_ifs <;> omega

theorem lwpolyFromGserializedBuffer_of_holdsAt (rs : List PointArray)
    (h : HoldsAt buf off (le32 polygonType ++ le32 rs.length ++ polyRingTable rs ++
      (rs.map PointArray.serializedPointlist).flatten))
    (hzm : ∀ r ∈ rs, flagsGetZm r.flags = flagsGetZm flags) (hlen : rs.length * 4 < 2 ^ 32) :
    lwpolyFromGserializedBuffer buf off flags = .ok (.polygon flags none sridUnknown (rs.map (·.view flags)),
      (le32 polygonType ++ le32 rs.length ++ polyRingTable rs ++
        (rs.map PointArray.serializedPointlist).flatten).length) := by
  rw [List.append_assoc] at h
  obtain ⟨-, hn, hr⟩ := holdsAt_words h
  obtain ⟨ht, ho⟩ := holdsAt_append.mp hr
  have hd := (holdsAt_append.mp ht).1
  rw [lwpolyFromGserializedBuffer, gserializedGetUint32T_of_holdsAt hn (by omega), ok_bind,
    toNat_ofNat_u32 (by omega), lwpolyOrdinateStart_eq off rs hlen, lwpolyRings_of_holdsAt rs hd ho hzm,
    ok_bind]
  exact congrArg Except.ok (Prod.ext rfl (by simp only [List.length_append, length_le32]; omega))

theorem lwcollectionChildren_of_holdsAt (A : Nat → Nat → Bool) {type : Nat} (htype : type < 2 ^ 32)
    (decode : Nat → Except LwError (Lwgeom × Nat)) (dec : Lwgeom → Lwgeom) (gs : List Lwgeom)
    {dptr : Nat} (h : HoldsAt buf dptr (Lwgeom.layout.layoutList gs))
    (hc : ∀ c ∈ gs, A type c.type ∧ c.type < 2 ^ 32 ∧
      ∀ off, HoldsAt buf off c.layout → decode off = .ok (dec c, c.layout.length)) :
    lwcollectionChildren A buf (UInt32.ofNat type) decode gs.length dptr =
      .ok (gs.map dec, dptr + (Lwgeom.layout.layoutList gs).length) := by
  induction gs generalizing dptr with
  | nil => rfl
  | cons c gs ih =>
    obtain ⟨hA, hct, hdec⟩ := hc c (List.mem_cons_self _ _)
    obtain ⟨h1, h2⟩ := holdsAt_append.mp h
    rw [List.length_cons, lwcollectionChildren, gserializedGetUint32T_of_holdsAt (Lwgeom.holdsAt_type h1) hct,
      ok_bind, toNat_ofNat_u32 htype, toNat_ofNat_u32 hct]
    simp only [hA, Bool.not_true, Bool.false_eq_true, ↓reduceIte, pure_bind, hdec dptr h1, ok_bind,
      ih h2 fun c' hc' => hc c' (List.mem_cons_of_mem _ hc'), List.map_cons,
      Lwgeom.layout.layoutList, List.length_append, Nat.add_assoc]
    rfl

theorem lwcollectionFromGserializedBuffer_of_holdsAt (A : Nat → Nat → Bool) {t : Nat} (ht : t < 2 ^ 32)
    (gs : List Lwgeom) (hlen : gs.length < 2 ^ 32) (decode : Nat → UInt8 → Except LwError (Lwgeom × Nat))
    (h : HoldsAt buf off (le32 t ++ le32 gs.length ++ Lwgeom.layout.layoutList gs))
    (hc : ∀ c ∈ gs, A t c.type ∧ c.type < 2 ^ 32 ∧ ∀ off, HoldsAt buf off c.layout →
      decode off (flagsSetBbox flags false) = .ok (c.decoded (flagsSetBbox flags false), c.layout.length)) :
    lwcollectionFromGserializedBuffer A buf decode off flags =
      .ok ((Lwgeom.collection t flags none sridUnknown gs).decoded flags,
        (le32 t ++ le32 gs.length ++ Lwgeom.layout.layoutList gs).length) := by
  obtain ⟨h0, hn, hr⟩ := holdsAt_words h
  rw [lwcollectionFromGserializedBuffer, gserializedGetUint32T_of_holdsAt h0 ht, ok_bind,
    gserializedGetUint32T_of_holdsAt hn hlen, ok_bind, toNat_ofNat_u32 hlen,
    lwcollectionChildren_of_holdsAt A ht _ _ gs hr hc, ok_bind, toNat_ofNat_u32 ht, Lwgeom.decoded,
    Lwgeom.decodedList_eq_map]
  exact congrArg Except.ok (Prod.ext rfl (by simp only [List.length_append, length_le32]; omega))

end

section
variable {A : Nat → Nat → Bool} {buf : List UInt8}

/-- On the layout of a valid node where nothing wraps, read under flags of the
node's Z and M, the deserializer builds the decoded tree and reports the
layout's length as the bytes it spans. -/
theorem lwgeomFromGserializedBuffer_of_holdsAt (g : Lwgeom) (hv : g.valid A) (hw : g.noWrap)
    {off : Nat} {flags : UInt8} {fuel : Nat} (h : HoldsAt buf off g.layout)
    (hzm : flagsGetZm g.flags = flagsGetZm flags) (hfuel : g.layout.length ≤ 8 * (fuel + 1)) :
    lwgeomFromGserializedBuffer A buf (fuel + 1) off flags = .ok (g.decoded flags, g.layout.length) := by
  have one := @List.mem_singleton_self PointArray
  have htype := Lwgeom.holdsAt_type h
  have hread := gserializedGetUint32T_of_holdsAt (Lwgeom.holdsAt_type h)
    (Lwgeom.type_lt_of_knownKind (Lwgeom.valid_node hv).1)
  have htoNat := toNat_ofNat_u32 (Lwgeom.type_lt_of_knownKind (Lwgeom.valid_node hv).1)
  induction g using Lwgeom.induction generalizing off flags fuel with
  | point f b s pa =>
    obtain ⟨-, -, hzpa, -, h1, -, -⟩ := Lwgeom.valid_node hv
    rw [lwgeomFromGserializedBuffer, hread, ok_bind]
    simp only [htoNat, Lwgeom.type, pointType, ↓reduceIte]
    exact lwpointFromGserializedBuffer_of_holdsAt h ((hzpa pa (one _)).trans hzm) (of_decide_eq_true h1)
  | line f b s pa =>
    rw [lwgeomFromGserializedBuffer, hread, ok_bind]
    simp only [htoNat, Lwgeom.type, pointType, lineType, ↓reduceIte]
    exact pointListFromGserializedBuffer_of_holdsAt _ _ h
      (((Lwgeom.valid_node hv).2.2.1 pa (one _)).trans hzm)
      (ptarrayPointSize_eq_of_zm hzm ▸ (Lwgeom.noWrap_node hw).2.1 pa (one _))
  | polygon f b s rs =>
    rw [lwgeomFromGserializedBuffer, hread, ok_bind]
    simp only [htoNat, Lwgeom.type, pointType, lineType, circStringType, polygonType, ↓reduceIte]
    exact lwpolyFromGserializedBuffer_of_holdsAt rs h
      (fun r hr => ((Lwgeom.valid_node hv).2.2.1 r hr).trans hzm) (Lwgeom.noWrap_node hw).1
  | triangle f b s pa =>
    rw [lwgeomFromGserializedBuffer, hread, ok_bind]
    simp only [htoNat, Lwgeom.type, pointType, lineType, circStringType, polygonType, triangleType,
      ↓reduceIte]
    exact pointListFromGserializedBuffer_of_holdsAt _ _ h
      (((Lwgeom.valid_node hv).2.2.1 pa (one _)).trans hzm)
      (ptarrayPointSize_eq_of_zm hzm ▸ (Lwgeom.noWrap_node hw).2.1 pa (one _))
  | circString f b s pa =>
    rw [lwgeomFromGserializedBuffer, hread, ok_bind]
    simp only [htoNat, Lwgeom.type, pointType, lineType, circStringType, ↓reduceIte]
    exact pointListFromGserializedBuffer_of_holdsAt _ _ h
      (((Lwgeom.valid_node hv).2.2.1 pa (one _)).trans hzm)
      (ptarrayPointSize_eq_of_zm hzm ▸ (Lwgeom.noWrap_node hw).2.1 pa (one _))
  | collection t f b s gs ih =>
    obtain ⟨hk, hadm, -, hzc, -, hfit, hvc⟩ := Lwgeom.valid_node hv
    obtain ⟨ht, h1, h2, h3, h4, h5⟩ := isCollectionType_spec hk
    rw [lwgeomFromGserializedBuffer, hread, ok_bind]
    simp only [Lwgeom.type, toNat_ofNat_u32 (show t < 2 ^ 32 by omega), h1, h2, h3, h4, h5,
      ↓reduceIte]
    rw [if_pos (show isCollectionType t = true from hk)]
    refine lwcollectionFromGserializedBuffer_of_holdsAt A (by omega) gs
      (of_decide_eq_true (Bool.and_eq_true_iff.mp hfit).1) _ h fun c hc => ⟨?_, ?_, fun off' h' => ?_⟩
    · exact List.all_eq_true.mp hadm c hc
    · exact Lwgeom.type_lt_of_knownKind (Lwgeom.valid_node (hvc c hc)).1
    · have hlen : c.layout.length ≤ 8 * fuel := by
        have := Lwgeom.layout_length_le hc
        simp only [Lwgeom.layout, List.length_append, length_le32] at hfuel
        omega
      obtain ⟨k, rfl⟩ := Nat.exists_eq_succ_of_ne_zero
        (show fuel ≠ 0 by have := c.layout_length_ge; omega)
      have hzc' : flagsGetZm c.flags = flagsGetZm (flagsSetBbox flags false) := by
        rw [hzc c hc, hzm, flagsGetZm_setBbox]
      have hct := Lwgeom.type_lt_of_knownKind (Lwgeom.valid_node (hvc c hc)).1
      exact ih c hc (hvc c hc) ((Lwgeom.noWrap_node hw).2.2 c hc) h' hzc' hlen (Lwgeom.holdsAt_type h')
        (gserializedGetUint32T_of_holdsAt (Lwgeom.holdsAt_type h') hct) (toNat_ofNat_u32 hct)

end

end GSerialized