import GSerialized.RoundTrip

/-! Whole records: the record `gserialized_from_lwgeom` writes for a valid tree,
laid out as header, box and body, and what `lwgeom_from_gserialized` reads
back from it. -/
namespace GSerialized

@[simp] theorem length_floatBytes (f : UInt32) : (floatBytes f).length = 4 := length_le32 _

theorem length_gserializedFromGbox (gbox : Gbox) :
    (gserializedFromGbox gbox).length = gboxSerializedSize gbox.flags := by
  have := flagsGetZ_le_one gbox.flags; have := flagsGetM_le_one gbox.flags
  unfold gserializedFromGbox gboxSerializedSize flagsNdims
  by_cases hg : flagsGetGeodetic gbox.flags = 1
  · simp only [if_pos hg, List.length_append, length_floatBytes]
  · simp only [if_neg hg, List.length_append, length_floatBytes]
    split_ifs <;> simp only [List.length_append, List.length_nil, length_floatBytes] <;> omega

theorem gboxSerializedSize_congr {a b : UInt8} (hz : flagsGetZ a = flagsGetZ b)
    (hm : flagsGetM a = flagsGetM b) (hg : flagsGetGeodetic a = flagsGetGeodetic b) :
    gboxSerializedSize a = gboxSerializedSize b := by
  simp only [gboxSerializedSize, flagsNdims, hz, hm, hg]

theorem readBoxFloat_eq {g : List UInt8} {off : Nat} (h : off + 4 ≤ g.length) :
    readBoxFloat g off = .ok (floatToDouble (UInt32.ofNat (ofLe ((g.drop off).take 4)))) := by
  rw [readBoxFloat, gserializedGetUint32T, readU32, readBytes, if_pos h]; rfl

theorem gserializedReadGboxP_ok {g : List UInt8} {f : UInt8} (gbox : Gbox) (h7 : readU8 g 7 = .ok f)
    (hlen : gserializedHeaderSize f ≤ g.length) : ∃ b, gserializedReadGboxP g gbox = .ok b := by
  have := flagsGetZ_le_one f; have := flagsGetM_le_one f; have := flagsGetBbox_le_one f
  rw [gserializedReadGboxP, h7, ok_bind]
  by_cases hb : flagsGetBbox f = 0
  · exact ⟨_, by rw [if_pos hb]; rfl⟩
  rw [gserializedHeaderSize, if_pos (by omega), gboxSerializedSize, flagsNdims] at hlen
  have h24 : 24 ≤ g.length := by split at hlen <;> omega
  have rd := fun o (ho : o + 4 ≤ g.length) => readBoxFloat_eq ho
  rw [if_neg hb, rd 8 (by omega), ok_bind, rd 12 (by omega), ok_bind, rd 16 (by omega), ok_bind,
    rd 20 (by omega), ok_bind]
  by_cases hg : flagsGetGeodetic f = 1
  · rw [if_pos hg] at hlen ⊢
    rw [rd 24 (by omega), ok_bind, rd 28 (by omega), ok_bind]
    exact ⟨_, rfl⟩
  rw [if_neg hg] at hlen ⊢
  rcases (show flagsGetZ f = 0 ∨ flagsGetZ f = 1 by omega) with hz | hz <;>
  rcases (show flagsGetM f = 0 ∨ flagsGetM f = 1 by omega) with hm | hm <;>
    simp only [hz, hm, Nat.one_ne_zero, Nat.zero_ne_one, reduceIte, pure_bind] at hlen ⊢
  · exact ⟨_, rfl⟩
  · rw [rd 24 (by omega), ok_bind, rd 28 (by omega), ok_bind]
    exact ⟨_, rfl⟩
  · rw [rd 24 (by omega), ok_bind, rd 28 (by omega), ok_bind]
    exact ⟨_, rfl⟩
  · rw [rd 24 (by omega), ok_bind, rd 28 (by omega), ok_bind, pure_bind, rd 32 (by omega), ok_bind,
      rd 36 (by omega), ok_bind]
    exact ⟨_, rfl⟩

namespace Lwgeom

/-- The cached box, when there is one, has the geometry's Z, M and geodetic bits,
which lay out both the box's floats and the record's header. -/
def boxMatches (g : Lwgeom) : Bool :=
  match g.bbox with
  | some b => flagsGetZ b.flags = flagsGetZ g.flags && flagsGetM b.flags = flagsGetM g.flags &&
      flagsGetGeodetic b.flags = flagsGetGeodetic g.flags
  | none => true

/-- The floats `gserialized_from_gbox` writes for the cached box, if any. -/
def boxBytes (g : Lwgeom) : List UInt8 :=
  match g.bbox with
  | some gbox => gserializedFromGbox gbox
  | none => []

/-- The record of a prepared tree around a body: size word, SRID bytes, flags,
box, body. -/
def recordOf (L : SridLimits) (g : Lwgeom) (body : List UInt8) : List UInt8 :=
  le32 ((8 + g.boxBytes.length + body.length) <<< 2) ++ gserializedSetSrid L g.srid ++ [g.flags] ++
    g.boxBytes ++ body

/-- The record of a prepared tree around the body the format lays out. -/
def record (L : SridLimits) (g : Lwgeom) : List UInt8 := g.recordOf L g.layout

theorem holdsAt_recordOf (L : SridLimits) (g : Lwgeom) (body : List UInt8) :
    HoldsAt (g.recordOf L body) (8 + g.boxBytes.length) body := by
  have := holdsAt_window (le32 ((8 + g.boxBytes.length + body.length) <<< 2) ++ gserializedSetSrid L g.srid ++
    [g.flags] ++ g.boxBytes) body []
  simp only [List.append_nil, List.length_append, length_le32, length_gserializedSetSrid,
    List.length_singleton] at this
  exact this

theorem holdsAt_recordOf_boxBytes (L : SridLimits) (g : Lwgeom) (body : List UInt8) :
    HoldsAt (g.recordOf L body) 8 g.boxBytes := by
  have := holdsAt_window (le32 ((8 + g.boxBytes.length + body.length) <<< 2) ++ gserializedSetSrid L g.srid ++
    [g.flags]) g.boxBytes body
  simp only [List.length_append, length_le32, length_gserializedSetSrid, List.length_singleton] at this
  exact this

theorem length_recordOf (L : SridLimits) (g : Lwgeom) (body : List UInt8) :
    (g.recordOf L body).length = 8 + g.boxBytes.length + body.length := by
  simp only [recordOf, List.length_append, length_le32, length_gserializedSetSrid, List.length_singleton]

theorem readU8_recordOf_flags (L : SridLimits) (g : Lwgeom) (body : List UInt8) :
    readU8 (g.recordOf L body) 7 = .ok g.flags := by
  obtain ⟨s0, s1, s2, hset, -⟩ := gserializedGetSrid_of_setSrid L g.srid
  rw [recordOf, hset]; rfl

theorem length_boxBytes {g : Lwgeom} (hb : g.boxMatches) :
    g.boxBytes.length = if g.bbox.isSome then gboxSerializedSize g.flags else 0 := by
  unfold boxMatches at hb
  unfold boxBytes
  split
  · rename_i b hbb
    simp only [hbb, Bool.and_eq_true, decide_eq_true_eq] at hb ⊢
    rw [length_gserializedFromGbox, gboxSerializedSize_congr hb.1.1 hb.1.2 hb.2]
    rfl
  · rename_i hbb
    simp [hbb]

end Lwgeom

/-- What `gserialized_from_lwgeom` does to the caller's tree before writing:
it may attach a box, and it sets the box bit to say whether there is one. -/
theorem prepareBbox_eq (c : Collaborators) (g : Lwgeom) :
    ∃ b, prepareBbox c g = (g.setBbox b).setFlags (flagsSetBbox g.flags b.isSome) := by
  unfold prepareBbox lwgeomAddBbox
  split_ifs
  · split
    · rename_i box _
      exact ⟨some box, by simp only [Lwgeom.flags_setBbox, Lwgeom.bbox_setBbox]⟩
    · exact ⟨g.bbox, by cases g <;> rfl⟩
  · exact ⟨g.bbox, by cases g <;> rfl⟩

section
variable {A : Nat → Nat → Bool} {c : Collaborators} {g : Lwgeom}

theorem valid_prepareBbox (hv : g.valid A) : (prepareBbox c g).valid A := by
  obtain ⟨b, hb⟩ := prepareBbox_eq c g
  rw [hb, Lwgeom.valid_setFlags _ (by simp [flagsGetZm]), Lwgeom.valid_setBbox, hv]

theorem noWrap_prepareBbox (hw : g.noWrap) : (prepareBbox c g).noWrap := by
  obtain ⟨b, hb⟩ := prepareBbox_eq c g
  rw [hb, Lwgeom.noWrap_setFlags _ (by simp [flagsGetZm]), Lwgeom.noWrap_setBbox, hw]

theorem runsFit_prepareBbox (hw : g.runsFit) : (prepareBbox c g).runsFit := by
  obtain ⟨b, hb⟩ := prepareBbox_eq c g
  rw [hb, Lwgeom.runsFit_setFlags _ (by simp [flagsGetZm]), Lwgeom.runsFit_setBbox, hw]

@[simp] theorem layout_prepareBbox : (prepareBbox c g).layout = g.layout := by
  obtain ⟨b, hb⟩ := prepareBbox_eq c g
  simp [hb]

@[simp] theorem shape_prepareBbox : (prepareBbox c g).shape = g.shape := by
  obtain ⟨b, hb⟩ := prepareBbox_eq c g
  simp [hb]

@[simp] theorem srid_prepareBbox : (prepareBbox c g).srid = g.srid := by
  obtain ⟨b, hb⟩ := prepareBbox_eq c g
  simp [hb]

@[simp] theorem flagsGetZm_prepareBbox : flagsGetZm (prepareBbox c g).flags = flagsGetZm g.flags := by
  obtain ⟨b, hb⟩ := prepareBbox_eq c g
  simp [hb]

@[simp] theorem flagsGetZ_prepareBbox : flagsGetZ (prepareBbox c g).flags = flagsGetZ g.flags :=
  (zm_eq_iff.mp flagsGetZm_prepareBbox).1

@[simp] theorem flagsGetM_prepareBbox : flagsGetM (prepareBbox c g).flags = flagsGetM g.flags :=
  (zm_eq_iff.mp flagsGetZm_prepareBbox).2

theorem flagsGetBbox_prepareBbox :
    flagsGetBbox (prepareBbox c g).flags = if (prepareBbox c g).bbox.isSome then 1 else 0 := by
  obtain ⟨b, hb⟩ := prepareBbox_eq c g
  simp [hb]

theorem lwgeomFromGserialized_recordOf (L : SridLimits) {body : List UInt8} {t : Nat}
    (hb : g.boxMatches) (hbit : flagsGetBbox g.flags = if g.bbox.isSome then 1 else 0)
    (ht : t < 2 ^ 32) (htype : le32 t <+: body) :
    ∃ box, lwgeomFromGserialized c (g.recordOf L body) = do
      let (lwgeom, _) ← lwgeomFromGserializedBuffer c.allowsSubtype (g.recordOf L body)
        (g.recordOf L body).length (8 + g.boxBytes.length) g.flags
      let lwgeom := (lwgeom.setType t).setFlags g.flags
      let bbox := match box with
        | some b => some b
        | none => if c.needsBbox lwgeom then c.calculateGbox lwgeom else none
      return (lwgeom.setBbox bbox).setSrid (clampSrid L g.srid) := by
  obtain ⟨s0, s1, s2, hset, hget⟩ := gserializedGetSrid_of_setSrid L g.srid
  have hrec : g.recordOf L body = le32 ((8 + g.boxBytes.length + body.length) <<< 2) ++ [s0, s1, s2] ++
      [g.flags] ++ g.boxBytes ++ body := by rw [Lwgeom.recordOf, hset]
  have hhead : gserializedHeaderSize g.flags = 8 + g.boxBytes.length := by
    rw [gserializedHeaderSize, Lwgeom.length_boxBytes hb, hbit]; split <;> simp
  have hbody := Lwgeom.holdsAt_recordOf L g body
  have h7 := Lwgeom.readU8_recordOf_flags L g body
  obtain ⟨box, hbox⟩ := gserializedReadGboxP_ok gboxInit h7 (by have := hbody.le_length; omega)
  refine ⟨box, ?_⟩
  rw [lwgeomFromGserialized, show readU8 (g.recordOf L body) 4 = .ok s0 by rw [hrec]; rfl, ok_bind,
    show readU8 (g.recordOf L body) 5 = .ok s1 by rw [hrec]; rfl, ok_bind,
    show readU8 (g.recordOf L body) 6 = .ok s2 by rw [hrec]; rfl, ok_bind, h7, ok_bind,
    gserializedGetType, h7, ok_bind, hhead,
    gserializedGetUint32T_of_holdsAt ⟨hbody.1, htype.trans hbody.2⟩ ht, ok_bind]
  simp only [hbox, ok_bind, toNat_ofNat_u32 ht, hget]
  rfl

/-- The record of a valid tree whose box bit says whether it has a box reads
back as the decoded tree, with a box and the clamped SRID at the root. -/
theorem lwgeomFromGserialized_record (L : SridLimits) (hv : g.valid c.allowsSubtype) (hw : g.noWrap)
    (hb : g.boxMatches) (hbit : flagsGetBbox g.flags = if g.bbox.isSome then 1 else 0) :
    ∃ bbox, lwgeomFromGserialized c (g.record L) =
      .ok (((g.decoded g.flags).setBbox bbox).setSrid (clampSrid L g.srid)) := by
  have hdec := lwgeomFromGserializedBuffer_of_holdsAt g hv hw (Lwgeom.holdsAt_recordOf L g g.layout) rfl
    (show g.layout.length ≤ 8 * (7 + g.boxBytes.length + g.layout.length + 1) by omega)
  obtain ⟨box, hrec⟩ := lwgeomFromGserialized_recordOf (c := c) L hb hbit
    (Lwgeom.type_lt_of_knownKind (Lwgeom.valid_node hv).1) g.type_prefix_layout
  rw [Lwgeom.record, hrec, Lwgeom.length_recordOf, show 8 + g.boxBytes.length + g.layout.length =
    7 + g.boxBytes.length + g.layout.length + 1 by omega, hdec, ok_bind]
  simp only [Lwgeom.decoded_setType, Lwgeom.decoded_setFlags]
  exact ⟨_, rfl⟩

theorem gserializedFromLwgeom_eq_recordOf (L : SridLimits) {body : List UInt8}
    (hb : (prepareBbox c g).boxMatches) (hany : gserializedFromLwgeomAny (prepareBbox c g) = .ok body)
    (hsize : gserializedFromAnySize (prepareBbox c g) = .ok body.length) :
    gserializedFromLwgeom L c g = .ok ((prepareBbox c g).recordOf L body) := by
  have hbox := Lwgeom.length_boxBytes hb
  simp only [gserializedFromLwgeom, gserializedFromLwgeomSize, hsize, hany, ok_bind, pure_bind]
  unfold Lwgeom.recordOf Lwgeom.boxBytes at *
  cases hbb : (prepareBbox c g).bbox <;> simp only [hbb] at hbox ⊢ <;> simp [hbox] <;> rfl

theorem gserializedFromLwgeom_eq_record (L : SridLimits) (hv : g.valid A) (hw : g.runsFit)
    (hb : (prepareBbox c g).boxMatches) : gserializedFromLwgeom L c g = .ok ((prepareBbox c g).record L) :=
  gserializedFromLwgeom_eq_recordOf L hb
    (gserializedFromLwgeomAny_eq_layout _ (valid_prepareBbox hv) (runsFit_prepareBbox hw))
    (gserializedFromAnySize_eq_length _ (valid_prepareBbox hv) (runsFit_prepareBbox hw))

end

end GSerialized
