import GSerialized.Record

/-! The codec's laws at the level of whole records: what decoding after
encoding gives back, and where the reader trusts the record. -/
namespace GSerialized

/-- Identifier bounds that meet the library's invariants: `SRID_MAXIMUM` 999999
and `SRID_USER_MAXIMUM` 998999. -/
def sampleSridLimits : SridLimits := ⟨999999, 998999, by decide, by decide, by decide⟩

/-- Collaborators that never ask for a box and admit every subtype. -/
def plainCollaborators : Collaborators :=
  ⟨fun _ => false, fun _ => false, fun _ => none, fun _ _ => true, fun x _ _ => (x, x)⟩

def samplePoint : Lwgeom :=
  .point 0 none 0 ⟨0, 1, le64 0x3FF0000000000000 ++ le64 0x4000000000000000, by decide, by decide⟩

/-- Decoding after encoding, on the valid trees where no `uint32_t` product of
the codec wraps and whose box lays out like the geometry: the record decodes to
a tree of the same shape whose every node and point array has the tree's Z and
M, whose SRID is the clamped one, and every node's body is read back as
spanning exactly the bytes written for it. -/
theorem lwgeomFromGserialized_gserializedFromLwgeom (L : SridLimits) (c : Collaborators) (g : Lwgeom)
    (hv : g.valid c.allowsSubtype) (hw : g.noWrap) (hb : (prepareBbox c g).boxMatches) :
    ∃ r g', gserializedFromLwgeom L c g = .ok r ∧ lwgeomFromGserialized c r = .ok g' ∧
      g'.shape = g.shape ∧ g'.zmIs (flagsGetZm g.flags) ∧ g'.srid = clampSrid L g.srid ∧
      ∀ n, g.IsNode n → ∃ body, gserializedFromLwgeomAny n = .ok body ∧
        ∀ (buf : List UInt8) (off : Nat) (flags : UInt8) (fuel : Nat), HoldsAt buf off body →
          flagsGetZm flags = flagsGetZm n.flags → body.length ≤ 8 * (fuel + 1) →
          ∃ n', lwgeomFromGserializedBuffer c.allowsSubtype buf (fuel + 1) off flags = .ok (n', body.length) := by
  have hv' : (prepareBbox c g).valid c.allowsSubtype := valid_prepareBbox hv
  obtain ⟨bbox, hdec⟩ := lwgeomFromGserialized_record L hv' (noWrap_prepareBbox hw) hb
    flagsGetBbox_prepareBbox
  refine ⟨_, _, gserializedFromLwgeom_eq_record L hv (Lwgeom.runsFit_of_noWrap hw) hb, hdec, by simp [Lwgeom.shape_decoded], ?_,
    by simp, fun n hn => ?_⟩
  · simpa using Lwgeom.zmIs_decoded hv' rfl
  · have hvn := Lwgeom.all_of_isNode hv hn
    have hwn := Lwgeom.all_of_isNode hw hn
    exact ⟨_, gserializedFromLwgeomAny_eq_layout n hvn (Lwgeom.runsFit_of_noWrap hwn), fun buf off flags fuel h hz hf =>
      ⟨_, lwgeomFromGserializedBuffer_of_holdsAt n hvn hwn h hz.symm hf⟩⟩

theorem samplePoint_roundTrip :
    samplePoint.valid plainCollaborators.allowsSubtype ∧ samplePoint.noWrap ∧
      (prepareBbox plainCollaborators samplePoint).boxMatches ∧
    ∃ r g', gserializedFromLwgeom sampleSridLimits plainCollaborators samplePoint = .ok r ∧
      lwgeomFromGserialized plainCollaborators r = .ok g' ∧
      g'.shape = samplePoint.shape ∧ g'.zmIs (flagsGetZm samplePoint.flags) ∧
      g'.srid = clampSrid sampleSridLimits samplePoint.srid ∧
      ∀ n, samplePoint.IsNode n → ∃ body, gserializedFromLwgeomAny n = .ok body ∧
        ∀ (buf : List UInt8) (off : Nat) (flags : UInt8) (fuel : Nat), HoldsAt buf off body →
          flagsGetZm flags = flagsGetZm n.flags → body.length ≤ 8 * (fuel + 1) →
          ∃ n', lwgeomFromGserializedBuffer plainCollaborators.allowsSubtype buf (fuel + 1) off flags =
            .ok (n', body.length) :=
  ⟨rfl, rfl, rfl, lwgeomFromGserialized_gserializedFromLwgeom _ _ _ rfl rfl rfl⟩

/-! Without the no-wrap hypothesis the round trip fails: the writers and the
size calculator compute a ring's ordinate bytes as a `uint32_t` product, the
polygon reader as a `size_t` one. -/

/-- Two rings of two-ordinate points: `2^31` of them, then one. -/
def wrappingRings : List PointArray :=
  [⟨0, 2 ^ 31, List.replicate (2 ^ 35) 0, by decide, by rw [List.length_replicate]; rfl⟩,
    ⟨0, 1, List.replicate 16 0, by decide, rfl⟩]

/-- A valid polygon whose first ring's ordinate bytes, `2^35`, wrap to zero. -/
def wrappingPolygon : Lwgeom := .polygon 0 none 0 wrappingRings

/-- The body written for `wrappingRings`: the counts and the second ring's point. -/
def wrappedBody : List UInt8 := le32 polygonType ++ le32 2 ++ le32 (2 ^ 31) ++ le32 1 ++ List.replicate 16 0

section
variable {f : UInt8}

theorem flagsNdims_of_zm_zero (hf : flagsGetZm f = 0) : flagsNdims f = 2 :=
  flagsNdims_eq_of_zm (b := 0) hf

theorem gserializedFromLwpoly_wrappingRings (hf : flagsGetZm f = 0) :
    gserializedFromLwpoly f wrappingRings = .ok wrappedBody := by
  simp [gserializedFromLwpoly, gserializedFromLwpoly.ordinates, wrappingRings, polyRingTable, hf,
    show flagsGetZm 0 = 0 from rfl, flagsNdims_of_zm_zero hf, wrappedBody, Except.map, -List.reduceReplicate]

theorem gserializedFromLwpolySize_wrappingRings (hf : flagsGetZm f = 0) :
    gserializedFromLwpolySize f wrappingRings = wrappedBody.length := by
  simp [gserializedFromLwpolySize, wrappingRings, flagsNdims_of_zm_zero hf, wrappedBody, -List.reduceReplicate]

/-- The reader views the first ring's `2^31` points where the ordinates start,
sixteen bytes into the body, and so past the end of a buffer the body ends. -/
theorem lwgeomFromGserializedBuffer_wrappedBody {A : Nat → Nat → Bool} {buf : List UInt8} {off fuel : Nat}
    (h : HoldsAt buf off wrappedBody) (hend : buf.length = off + wrappedBody.length) :
    lwgeomFromGserializedBuffer A buf (fuel + 1) off f = .error (.readPastEnd (off + 16)) := by
  obtain ⟨h0, h4, hr⟩ := holdsAt_words (by simpa only [wrappedBody, List.append_assoc] using h)
  have h8 := (holdsAt_append.mp hr).1
  have hsize := flagsNdims_pos (gflags (flagsGetZ f) (flagsGetM f))
  rw [lwgeomFromGserializedBuffer, gserializedGetUint32T_of_holdsAt h0 (by decide), ok_bind]
  simp only [toNat_ofNat_u32 (show polygonType < 2 ^ 32 by decide), polygonType, pointType, lineType,
    circStringType, ↓reduceIte, Nat.reduceEqDiff]
  rw [lwpolyFromGserializedBuffer, gserializedGetUint32T_of_holdsAt h4 (by decide), ok_bind,
    toNat_ofNat_u32 (n := 1 + 1) (by decide), lwpolyOrdinateStart, lwpolyRings,
    gserializedGetUint32T_of_holdsAt h8 (by decide), ok_bind, ptarrayConstructReferenceData,
    dif_neg (by simp only [wrappedBody, List.length_append, length_le32, List.length_replicate,
      toNat_ofNat_u32 (show 2 ^ 31 < 2 ^ 32 by decide), ptarrayPointSize] at hend ⊢; omega)]
  rfl

end

/-- Whatever box the collaborators attach, as long as it is laid out like the
geometry, `wrappingPolygon` is valid and encodes, and its record's reader
views ordinates past the record's end. -/
theorem wrappingPolygon_encode_decode (L : SridLimits) (c : Collaborators)
    (hb : (prepareBbox c wrappingPolygon).boxMatches) :
    ∃ r off, gserializedFromLwgeom L c wrappingPolygon = .ok r ∧
      lwgeomFromGserialized c r = .error (.readPastEnd off) := by
  obtain ⟨b, hp⟩ := prepareBbox_eq c wrappingPolygon
  have hf : flagsGetZm (flagsSetBbox 0 b.isSome) = 0 := by rw [flagsGetZm_setBbox]; rfl
  have hpoly : prepareBbox c wrappingPolygon = .polygon (flagsSetBbox 0 b.isSome) b 0 wrappingRings := hp
  have henc := gserializedFromLwgeom_eq_recordOf L hb
    (by rw [hpoly]; exact gserializedFromLwpoly_wrappingRings hf)
    (by rw [hpoly, gserializedFromAnySize, gserializedFromLwpolySize_wrappingRings hf])
  have htype : le32 polygonType <+: wrappedBody := by
    simp only [wrappedBody, List.append_assoc]
    exact List.prefix_append _ _
  obtain ⟨box, hdec⟩ := lwgeomFromGserialized_recordOf (c := c) L hb flagsGetBbox_prepareBbox
    (show polygonType < 2 ^ 32 by decide) htype
  refine ⟨_, 8 + (prepareBbox c wrappingPolygon).boxBytes.length + 16, henc, ?_⟩
  rw [hdec, Lwgeom.length_recordOf, show 8 + (prepareBbox c wrappingPolygon).boxBytes.length +
    wrappedBody.length = 7 + (prepareBbox c wrappingPolygon).boxBytes.length + wrappedBody.length + 1 by omega,
    lwgeomFromGserializedBuffer_wrappedBody (Lwgeom.holdsAt_recordOf L _ _) (by rw [Lwgeom.length_recordOf])]
  rfl

/-- The round trip's no-wrap hypothesis is needed: `wrappingPolygon` meets the
others, and its record does not read back. -/
theorem wrappingPolygon_roundTrip_fails (L : SridLimits) (c : Collaborators)
    (hb : (prepareBbox c wrappingPolygon).boxMatches) :
    wrappingPolygon.valid c.allowsSubtype ∧ wrappingPolygon.noWrap = false ∧
      ∃ r off, gserializedFromLwgeom L c wrappingPolygon = .ok r ∧
        lwgeomFromGserialized c r = .error (.readPastEnd off) :=
  ⟨rfl, rfl, wrappingPolygon_encode_decode L c hb⟩

theorem plainCollaborators_roundTrip_fails :
    (prepareBbox plainCollaborators wrappingPolygon).boxMatches ∧
    wrappingPolygon.valid plainCollaborators.allowsSubtype ∧ wrappingPolygon.noWrap = false ∧
      ∃ r off, gserializedFromLwgeom sampleSridLimits plainCollaborators wrappingPolygon = .ok r ∧
        lwgeomFromGserialized plainCollaborators r = .error (.readPastEnd off) :=
  ⟨rfl, wrappingPolygon_roundTrip_fails _ _ rfl⟩

/-- Encoding the decoded record does not give the record back: the record of
`wrappingPolygon` does not decode. -/
theorem wrappingPolygon_reencode_fails (L : SridLimits) (c : Collaborators)
    (hb : (prepareBbox c wrappingPolygon).boxMatches) :
    wrappingPolygon.valid c.allowsSubtype ∧
      ∃ r off, gserializedFromLwgeom L c wrappingPolygon = .ok r ∧
        (lwgeomFromGserialized c r >>= gserializedFromLwgeom L c) = .error (.readPastEnd off) := by
  obtain ⟨r, off, henc, hdec⟩ := wrappingPolygon_encode_decode L c hb
  exact ⟨rfl, r, off, henc, by rw [hdec]; rfl⟩

theorem plainCollaborators_reencode_fails :
    (prepareBbox plainCollaborators wrappingPolygon).boxMatches ∧
    wrappingPolygon.valid plainCollaborators.allowsSubtype ∧
      ∃ r off, gserializedFromLwgeom sampleSridLimits plainCollaborators wrappingPolygon = .ok r ∧
        (lwgeomFromGserialized plainCollaborators r >>= gserializedFromLwgeom sampleSridLimits plainCollaborators) =
          .error (.readPastEnd off) :=
  ⟨rfl, wrappingPolygon_reencode_fails _ _ rfl⟩

/-- The reader checks no count against the record's size, but the records the
serializer writes for valid trees where nothing wraps hold everything it reads:
it returns a geometry, having read and viewed only bytes of the record. -/
theorem lwgeomFromGserialized_readsWithinRecord (L : SridLimits) (c : Collaborators) (g : Lwgeom)
    (hv : g.valid c.allowsSubtype) (hw : g.noWrap) (hb : (prepareBbox c g).boxMatches) :
    ∃ r g', gserializedFromLwgeom L c g = .ok r ∧ lwgeomFromGserialized c r = .ok g' := by
  obtain ⟨bbox, hdec⟩ := lwgeomFromGserialized_record L (valid_prepareBbox hv) (noWrap_prepareBbox hw) hb
    flagsGetBbox_prepareBbox
  exact ⟨_, _, gserializedFromLwgeom_eq_record L hv (Lwgeom.runsFit_of_noWrap hw) hb, hdec⟩

theorem samplePoint_readsWithinRecord :
    samplePoint.valid plainCollaborators.allowsSubtype ∧ samplePoint.noWrap ∧
      (prepareBbox plainCollaborators samplePoint).boxMatches ∧
    ∃ r g', gserializedFromLwgeom sampleSridLimits plainCollaborators samplePoint = .ok r ∧
      lwgeomFromGserialized plainCollaborators r = .ok g' :=
  ⟨rfl, rfl, rfl, lwgeomFromGserialized_readsWithinRecord _ _ _ rfl rfl rfl⟩

end GSerialized
