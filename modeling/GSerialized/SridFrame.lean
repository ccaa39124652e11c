import GSerialized.Header

/-! `gserialized_set_srid` rewrites the three SRID bytes of a record in place.
Every other reader of a record starts at its flags byte or past it: the body
reader, the type word, the emptiness walk and the box readers. So a record
whose SRID is set decodes to the same tree with the new, clamped SRID at the
root, and the other readers see no change. The frame is stated once, for two
buffers of one length that agree from some byte on, and carried through each
reader as it recurses. -/
namespace GSerialized

/-- `gserialized_set_srid(s, srid)` on the record `s`: bytes 4 to 6 replaced. -/
def gserializedSetSridRecord (L : SridLimits) (s : List UInt8) (srid : Int) : List UInt8 :=
  s.take 4 ++ gserializedSetSrid L srid ++ s.drop 7

/-- Two buffers of one length that agree from byte `k` on. -/
def SameFrom (k : Nat) (buf buf' : List UInt8) : Prop :=
  buf.length = buf'.length ∧ buf.drop k = buf'.drop k

namespace SameFrom

variable {k : Nat} {buf buf' : List UInt8} (h : SameFrom k buf buf')
include h

theorem drop_eq {off : Nat} (hk : k ≤ off) : buf.drop off = buf'.drop off := by
  rw [← Nat.add_sub_cancel' hk, ← List.drop_drop, ← List.drop_drop, h.2]

theorem readBytes_eq {off : Nat} (len : Nat) (hk : k ≤ off) :
    readBytes buf off len = readBytes buf' off len := by
  rw [readBytes, readBytes, h.1, h.drop_eq hk]

theorem gserializedGetUint32T_eq {off : Nat} (hk : k ≤ off) :
    gserializedGetUint32T buf off = gserializedGetUint32T buf' off := by
  rw [gserializedGetUint32T, gserializedGetUint32T, readU32, readU32, h.readBytes_eq 4 hk]

theorem readInt32_eq {off : Nat} (hk : k ≤ off) : readInt32 buf off = readInt32 buf' off := by
  rw [readInt32, readInt32, readU32, readU32, h.readBytes_eq 4 hk]

theorem readU8_eq {off : Nat} (hk : k ≤ off) : readU8 buf off = readU8 buf' off := by
  have hget : buf.get? off = buf'.get? off := by
    simpa only [List.get?_eq_getElem?, List.head?_drop] using congrArg List.head? (h.drop_eq hk)
  rw [readU8, readU8, hget]

theorem ptarrayConstructReferenceData_eq (hasz hasm : Nat) (npoints : UInt32) {off : Nat} (hk : k ≤ off) :
    ptarrayConstructReferenceData buf hasz hasm npoints off =
      ptarrayConstructReferenceData buf' hasz hasm npoints off := by
  simp only [ptarrayConstructReferenceData, h.1, h.drop_eq hk]

theorem lwpointFromGserializedBuffer_eq {off : Nat} (hk : k ≤ off) (gFlags : UInt8) :
    lwpointFromGserializedBuffer buf off gFlags = lwpointFromGserializedBuffer buf' off gFlags := by
  simp only [lwpointFromGserializedBuffer, h.gserializedGetUint32T_eq (by omega : k ≤ off + 4),
    h.ptarrayConstructReferenceData_eq _ _ _ (by omega : k ≤ off + 8)]

theorem pointListFromGserializedBuffer_eq (mk : UInt8 → Option Gbox → Int → PointArray → Lwgeom) {off : Nat}
    (hk : k ≤ off) (gFlags : UInt8) :
    pointListFromGserializedBuffer mk buf off gFlags = pointListFromGserializedBuffer mk buf' off gFlags := by
  simp only [pointListFromGserializedBuffer, h.gserializedGetUint32T_eq (by omega : k ≤ off + 4),
    h.ptarrayConstructReferenceData_eq _ _ _ (by omega : k ≤ off + 8)]

theorem lwpolyRings_eq (gFlags : UInt8) :
    ∀ (n : Nat) {dptr optr : Nat}, k ≤ dptr → k ≤ optr →
      lwpolyRings buf gFlags n dptr optr = lwpolyRings buf' gFlags n dptr optr
  | 0, _, _, _, _ => rfl
  | n + 1, dptr, optr, hd, ho => by
    have ih : ∀ {d o : Nat}, k ≤ d → k ≤ o → lwpolyRings buf gFlags n d o = lwpolyRings buf' gFlags n d o :=
      lwpolyRings_eq gFlags n
    simp (disch := omega) only [lwpolyRings, h.gserializedGetUint32T_eq hd,
      h.ptarrayConstructReferenceData_eq _ _ _ ho, ih]

theorem lwpolyFromGserializedBuffer_eq {off : Nat} (hk : k ≤ off) (gFlags : UInt8) :
    lwpolyFromGserializedBuffer buf off gFlags = lwpolyFromGserializedBuffer buf' off gFlags := by
  have hrings : ∀ n, lwpolyRings buf gFlags n (off + 8) (lwpolyOrdinateStart off n) =
      lwpolyRings buf' gFlags n (off + 8) (lwpolyOrdinateStart off n) :=
    fun n => h.lwpolyRings_eq gFlags n (by omega) (by unfold lwpolyOrdinateStart; omega)
  simp only [lwpolyFromGserializedBuffer, h.gserializedGetUint32T_eq (by omega : k ≤ off + 4), hrings]

theorem lwcollectionChildren_eq (allowsSubtype : Nat → Nat → Bool) (type : UInt32)
    {decode decode' : Nat → Except LwError (Lwgeom × Nat)} (hdec : ∀ {d}, k ≤ d → decode d = decode' d) :
    ∀ (n : Nat) {dptr : Nat}, k ≤ dptr →
      lwcollectionChildren allowsSubtype buf type decode n dptr =
        lwcollectionChildren allowsSubtype buf' type decode' n dptr
  | 0, _, _ => rfl
  | n + 1, dptr, hd => by
    have ih : ∀ {d : Nat}, k ≤ d → lwcollectionChildren allowsSubtype buf type decode n d =
        lwcollectionChildren allowsSubtype buf' type decode' n d :=
      lwcollectionChildren_eq allowsSubtype type hdec n
    simp (disch := omega) only [lwcollectionChildren, h.gserializedGetUint32T_eq hd, hdec hd, ih]

theorem lwcollectionFromGserializedBuffer_eq (allowsSubtype : Nat → Nat → Bool)
    {decode decode' : Nat → UInt8 → Except LwError (Lwgeom × Nat)} (hdec : ∀ {d}, k ≤ d → decode d = decode' d)
    {off : Nat} (hk : k ≤ off) (gFlags : UInt8) :
    lwcollectionFromGserializedBuffer allowsSubtype buf decode off gFlags =
      lwcollectionFromGserializedBuffer allowsSubtype buf' decode' off gFlags := by
  have hchildren : ∀ type n,
      lwcollectionChildren allowsSubtype buf type (decode · (flagsSetBbox gFlags false)) n (off + 8) =
        lwcollectionChildren allowsSubtype buf' type (decode' · (flagsSetBbox gFlags false)) n (off + 8) :=
    fun type n => h.lwcollectionChildren_eq allowsSubtype type (fun hd => congrFun (hdec hd) _) n (by omega)
  simp only [lwcollectionFromGserializedBuffer, h.gserializedGetUint32T_eq hk,
    h.gserializedGetUint32T_eq (by omega : k ≤ off + 4), hchildren]

/-- The body reader reads nothing before its offset. -/
theorem lwgeomFromGserializedBuffer_eq (allowsSubtype : Nat → Nat → Bool) :
    ∀ (fuel : Nat) {off : Nat}, k ≤ off → ∀ gFlags,
      lwgeomFromGserializedBuffer allowsSubtype buf fuel off gFlags =
        lwgeomFromGserializedBuffer allowsSubtype buf' fuel off gFlags
  | 0, _, _, _ => rfl
  | fuel + 1, off, hk, gFlags => by
    simp only [lwgeomFromGserializedBuffer, h.gserializedGetUint32T_eq hk, h.lwpointFromGserializedBuffer_eq hk,
      lwlineFromGserializedBuffer, lwcircstringFromGserializedBuffer, lwtriangleFromGserializedBuffer,
      h.pointListFromGserializedBuffer_eq _ hk, h.lwpolyFromGserializedBuffer_eq hk,
      h.lwcollectionFromGserializedBuffer_eq allowsSubtype
        (fun hd => funext (lwgeomFromGserializedBuffer_eq allowsSubtype fuel hd)) hk]

theorem gserializedIsEmptyRecurse_eq :
    ∀ (fuel : Nat) {off : Nat}, k ≤ off → gserializedIsEmptyRecurse buf fuel off = gserializedIsEmptyRecurse buf' fuel off
  | 0, _, _ => rfl
  | fuel + 1, off, hk => by
    have ih : ∀ lz, gserializedIsEmptyRecurse buf fuel (off + lz) = gserializedIsEmptyRecurse buf' fuel (off + lz) :=
      fun _ => gserializedIsEmptyRecurse_eq fuel (by omega)
    simp only [gserializedIsEmptyRecurse, h.readInt32_eq hk, h.readInt32_eq (by omega : k ≤ off + 4), ih]

theorem gserialized1CopyPoint_eq {dptr : Nat} (hd : k ≤ dptr) (flags : UInt8) (outPoint : Point4D) :
    gserialized1CopyPoint buf dptr flags outPoint = gserialized1CopyPoint buf' dptr flags outPoint := by
  have hdouble : ∀ j, readDouble buf (dptr + j) = readDouble buf' (dptr + j) := fun j => by
    rw [readDouble, readDouble, h.readBytes_eq 8 (by omega)]
  have h0 : readDouble buf dptr = readDouble buf' dptr := hdouble 0
  simp only [gserialized1CopyPoint, h0, hdouble]

/-! The readers of the header and of what follows it, from the flags byte on. -/

variable (hk : k ≤ 7)
include hk

theorem gserializedIsEmpty_eq : gserializedIsEmpty buf = gserializedIsEmpty buf' := by
  have hwalk : ∀ f : UInt8, gserializedIsEmptyRecurse buf buf'.length
      (8 + if flagsGetBbox f = 1 then gboxSerializedSize f else 0) =
      gserializedIsEmptyRecurse buf' buf'.length (8 + if flagsGetBbox f = 1 then gboxSerializedSize f else 0) :=
    fun _ => h.gserializedIsEmptyRecurse_eq _ (by omega)
  simp only [gserializedIsEmpty, h.readU8_eq hk, h.1, hwalk]

theorem gserializedGetType_eq : gserializedGetType buf = gserializedGetType buf' := by
  have hword : ∀ f, gserializedGetUint32T buf (gserializedHeaderSize f) =
      gserializedGetUint32T buf' (gserializedHeaderSize f) :=
    fun _ => h.gserializedGetUint32T_eq (by unfold gserializedHeaderSize; omega)
  simp only [gserializedGetType, h.readU8_eq hk, hword]

theorem gserializedReadGboxP_eq (gbox : Gbox) : gserializedReadGboxP buf gbox = gserializedReadGboxP buf' gbox := by
  have hfloat : ∀ off, 8 ≤ off → readBoxFloat buf off = readBoxFloat buf' off := fun _ ho => by
    rw [readBoxFloat, readBoxFloat, h.gserializedGetUint32T_eq (by omega)]
  rw [gserializedReadGboxP, gserializedReadGboxP, h.readU8_eq hk]
  cases readU8 buf' 7 with
  | error e => rfl
  | ok flags =>
    by_cases hz : flagsGetZ flags = 1 <;>
      simp only [ok_bind, hz, ↓reduceIte, bind_assoc, pure_bind, hfloat 8 (by omega), hfloat 12 (by omega),
        hfloat 16 (by omega), hfloat 20 (by omega), hfloat 24 (by omega), hfloat 28 (by omega),
        hfloat 32 (by omega), hfloat 36 (by omega)]

theorem dataDouble_eq (i : Nat) : dataDouble buf i = dataDouble buf' i := by
  rw [dataDouble, dataDouble, h.readBytes_eq 8 (by omega)]

theorem gserializedPeekGboxP_eq (gbox : Gbox) : gserializedPeekGboxP buf gbox = gserializedPeekGboxP buf' gbox := by
  simp only [gserializedPeekGboxP, h.gserializedGetType_eq hk, h.readU8_eq hk, dataInt,
    h.readInt32_eq (by omega : k ≤ 8 + 4 * 1), h.readInt32_eq (by omega : k ≤ 8 + 4 * 3), peekCoordinate,
    peekSegment, peekAxis, h.dataDouble_eq hk]

theorem gserializedPeekFirstPoint_eq (outPoint : Point4D) :
    gserializedPeekFirstPoint buf outPoint = gserializedPeekFirstPoint buf' outPoint := by
  rw [gserializedPeekFirstPoint, gserializedPeekFirstPoint, h.readU8_eq hk]
  cases readU8 buf' 7 with
  | error e => rfl
  | ok flags =>
    simp only [ok_bind]
    generalize hg : (8 + if flagsGetBbox flags = 1 then gserialized1BoxSize flags else 0) = g
    have h8 : 8 ≤ g := hg ▸ by split <;> omega
    simp only [h.gserializedGetUint32T_eq (by omega : k ≤ g + 4), h.gserializedGetUint32T_eq (by omega : k ≤ g),
      h.gserialized1CopyPoint_eq (by omega : k ≤ g + 8)]

end SameFrom

@[simp] theorem Lwgeom.setSrid_setSrid (g : Lwgeom) (a b : Int) : (g.setSrid a).setSrid b = g.setSrid b := by
  cases g <;> rfl

theorem readU8_of_lt {buf : List UInt8} {off : Nat} (h : off < buf.length) : readU8 buf off = .ok buf[off] := by
  simp only [readU8, List.get?_eq_getElem?, List.getElem?_eq_getElem h]

section
variable (L : SridLimits) {s : List UInt8} (srid : Int) (hs : 7 ≤ s.length)
include hs

theorem sameFrom_gserializedSetSridRecord : SameFrom 7 s (gserializedSetSridRecord L s srid) := by
  have hhead : (s.take 4 ++ gserializedSetSrid L srid).length = 7 := by
    simp only [List.length_append, List.length_take, length_gserializedSetSrid]; omega
  refine ⟨?_, ?_⟩
  · simp only [gserializedSetSridRecord, List.length_append, List.length_drop] at hhead ⊢; omega
  · rw [gserializedSetSridRecord, List.drop_left' hhead]

theorem lwgeomFromGserialized_gserializedSetSridRecord (c : Collaborators) :
    lwgeomFromGserialized c (gserializedSetSridRecord L s srid) =
      (lwgeomFromGserialized c s).map (·.setSrid (clampSrid L srid)) := by
  have h := sameFrom_gserializedSetSridRecord L srid hs
  obtain ⟨s0, s1, s2, hset, hget⟩ := gserializedGetSrid_of_setSrid L srid
  have hbytes : ∀ i (hi : i < 3), readU8 (gserializedSetSridRecord L s srid) (4 + i) =
      .ok ([s0, s1, s2].get ⟨i, hi⟩) := fun i hi => by
    rw [gserializedSetSridRecord, hset, readU8, List.get?_eq_getElem?, List.append_assoc,
      List.getElem?_append_right (by simp only [List.length_take]; omega)]
    simp only [List.length_take, show min 4 s.length = 4 by omega, Nat.add_sub_cancel_left]
    rw [List.getElem?_append_left (show i < [s0, s1, s2].length from hi),
      List.getElem?_eq_getElem (show i < [s0, s1, s2].length from hi)]; rfl
  have hbody : ∀ f, lwgeomFromGserializedBuffer c.allowsSubtype (gserializedSetSridRecord L s srid)
      (gserializedSetSridRecord L s srid).length (gserializedHeaderSize f) f =
      lwgeomFromGserializedBuffer c.allowsSubtype s s.length (gserializedHeaderSize f) f := fun f => by
    rw [← h.1]; exact (h.lwgeomFromGserializedBuffer_eq _ _ (by unfold gserializedHeaderSize; omega) f).symm
  rw [lwgeomFromGserialized, lwgeomFromGserialized, hbytes 0 (by decide), hbytes 1 (by decide),
    hbytes 2 (by decide), readU8_of_lt (by omega : 4 < s.length), readU8_of_lt (by omega : 5 < s.length),
    readU8_of_lt (by omega : 6 < s.length)]
  simp only [ok_bind, ← h.readU8_eq le_rfl, ← h.gserializedGetType_eq le_rfl, hbody,
    ← h.gserializedReadGboxP_eq le_rfl]
  show _ = Lwgeom.setSrid (clampSrid L srid) <$> _
  simp only [map_bind, map_pure, Lwgeom.setSrid_setSrid, List.get, hget]

/-- `gserialized_set_srid` on a record of seven bytes or more keeps its length
and changes what the record decodes to in the root's SRID alone, which becomes
the clamped identifier; the type, the emptiness test, both box readers and the
first-point peek return what they returned before, errors included. -/
theorem gserializedSetSridRecord_frame (c : Collaborators) :
    (gserializedSetSridRecord L s srid).length = s.length ∧
    lwgeomFromGserialized c (gserializedSetSridRecord L s srid) =
      (lwgeomFromGserialized c s).map (·.setSrid (clampSrid L srid)) ∧
    gserializedGetType (gserializedSetSridRecord L s srid) = gserializedGetType s ∧
    gserializedIsEmpty (gserializedSetSridRecord L s srid) = gserializedIsEmpty s ∧
    (∀ gbox, gserializedReadGboxP (gserializedSetSridRecord L s srid) gbox = gserializedReadGboxP s gbox ∧
      gserializedPeekGboxP (gserializedSetSridRecord L s srid) gbox = gserializedPeekGboxP s gbox) ∧
    ∀ p, gserializedPeekFirstPoint (gserializedSetSridRecord L s srid) p = gserializedPeekFirstPoint s p := by
  have h := sameFrom_gserializedSetSridRecord L srid hs
  exact ⟨h.1.symm, lwgeomFromGserialized_gserializedSetSridRecord L srid hs c,
    (h.gserializedGetType_eq le_rfl).symm, (h.gserializedIsEmpty_eq le_rfl).symm,
    fun gbox => ⟨(h.gserializedReadGboxP_eq le_rfl gbox).symm, (h.gserializedPeekGboxP_eq le_rfl gbox).symm⟩,
    fun p => (h.gserializedPeekFirstPoint_eq le_rfl p).symm⟩

end

theorem samplePoint_setSrid :
    7 ≤ (samplePoint.record sampleSridLimits).length ∧
    (gserializedSetSridRecord sampleSridLimits (samplePoint.record sampleSridLimits) 4326).length =
      (samplePoint.record sampleSridLimits).length ∧
    lwgeomFromGserialized plainCollaborators
        (gserializedSetSridRecord sampleSridLimits (samplePoint.record sampleSridLimits) 4326) =
      (lwgeomFromGserialized plainCollaborators (samplePoint.record sampleSridLimits)).map
        (·.setSrid (clampSrid sampleSridLimits 4326)) ∧
    gserializedGetType (gserializedSetSridRecord sampleSridLimits (samplePoint.record sampleSridLimits) 4326) =
      gserializedGetType (samplePoint.record sampleSridLimits) ∧
    gserializedIsEmpty (gserializedSetSridRecord sampleSridLimits (samplePoint.record sampleSridLimits) 4326) =
      gserializedIsEmpty (samplePoint.record sampleSridLimits) ∧
    (∀ gbox, gserializedReadGboxP (gserializedSetSridRecord sampleSridLimits (samplePoint.record sampleSridLimits)
        4326) gbox = gserializedReadGboxP (samplePoint.record sampleSridLimits) gbox ∧
      gserializedPeekGboxP (gserializedSetSridRecord sampleSridLimits (samplePoint.record sampleSridLimits) 4326)
        gbox = gserializedPeekGboxP (samplePoint.record sampleSridLimits) gbox) ∧
    ∀ p, gserializedPeekFirstPoint (gserializedSetSridRecord sampleSridLimits (samplePoint.record sampleSridLimits)
      4326) p = gserializedPeekFirstPoint (samplePoint.record sampleSridLimits) p :=
  ⟨by decide, gserializedSetSridRecord_frame sampleSridLimits 4326 (by decide) plainCollaborators⟩

end GSerialized
