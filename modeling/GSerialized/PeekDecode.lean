import GSerialized.Accepted

/-! The peeks against the decoder. `gserialized_peek_first_point` and
`gserialized_peek_gbox_p` read a few words and doubles of a record in place of
decoding it; on every record the decoder accepts, whatever its bytes, what they
return is what the decoded geometry says. The readers' views are where the
peeks read: a Point's or a LineString's array eight bytes into its node, and
the one child of a MultiPoint or MultiLineString eight bytes into the
collection. -/
namespace GSerialized

section
variable {A : Nat → Nat → Bool} {buf : List UInt8}

/-! ### What each reader views -/

theorem lwpointFromGserializedBuffer_view {buf : List UInt8} {off : Nat} {f : UInt8} {r : Lwgeom × Nat}
    (h : lwpointFromGserializedBuffer buf off f = .ok r) :
    ∃ n pa, gserializedGetUint32T buf (off + 4) = .ok n ∧ pa.flags = gflags (flagsGetZ f) (flagsGetM f) ∧
      pa.npoints = (if n > 0 then 1 else 0) ∧ (n > 0 → HoldsAt buf (off + 8) pa.serializedPointlist) ∧
      r.1 = .point f none sridUnknown pa := by
  obtain ⟨n, hn, h⟩ := bind_eq_ok h
  obtain ⟨pa, hpa, h⟩ := bind_eq_ok h
  obtain ⟨hf, hp⟩ := leafArray_ok hpa
  refine ⟨n, pa, hn, hf, hp, fun hpos => ?_, by rw [← Except.ok.inj h]⟩
  rw [if_pos hpos] at hpa
  exact holdsAt_of_ptarrayConstructReferenceData hpa

theorem pointListFromGserializedBuffer_view {mk : UInt8 → Option Gbox → Int → PointArray → Lwgeom} {off : Nat}
    {f : UInt8} {r : Lwgeom × Nat} (h : pointListFromGserializedBuffer mk buf off f = .ok r) :
    ∃ n pa, gserializedGetUint32T buf (off + 4) = .ok n ∧ pa.flags = gflags (flagsGetZ f) (flagsGetM f) ∧
      pa.npoints = n.toNat ∧ (n > 0 → HoldsAt buf (off + 8) pa.serializedPointlist) ∧
      r.1 = mk f none sridUnknown pa := by
  obtain ⟨n, hn, h⟩ := bind_eq_ok h
  obtain ⟨pa, hpa, h⟩ := bind_eq_ok h
  obtain ⟨hf, hp⟩ := leafArray_ok hpa
  refine ⟨n, pa, hn, hf, hp.trans ?_, fun hpos => ?_, by rw [← Except.ok.inj h]⟩
  · split
    · rfl
    · exact (Nat.eq_zero_of_not_pos ‹_›).symm
  · rw [if_pos hpos] at hpa
    exact holdsAt_of_ptarrayConstructReferenceData hpa

theorem lwcollectionChildren_one {type : UInt32} {decode : Nat → Except LwError (Lwgeom × Nat)} {dptr : Nat}
    {gs : List Lwgeom} {dptr' : Nat} (h : lwcollectionChildren A buf type decode 1 dptr = .ok (gs, dptr')) :
    ∃ s c subsize, gserializedGetUint32T buf dptr = .ok s ∧ A type.toNat s.toNat = true ∧
      decode dptr = .ok (c, subsize) ∧ gs = [c] := by
  rw [lwcollectionChildren] at h
  obtain ⟨s, hs, h⟩ := bind_eq_ok h
  split at h
  · cases h
  rename_i hA
  obtain ⟨_, -, h⟩ := bind_eq_ok h
  obtain ⟨⟨c, subsize⟩, hc, h⟩ := bind_eq_ok h
  obtain ⟨⟨gs', d⟩, hrest, h⟩ := bind_eq_ok h
  cases hrest
  cases h
  exact ⟨s, c, subsize, hs, by simpa using hA, hc, rfl⟩

theorem lwgeomFromGserializedBuffer_of_pointWord {fuel off : Nat} {f : UInt8} {r : Lwgeom × Nat} {w : UInt32}
    (h : lwgeomFromGserializedBuffer A buf fuel off f = .ok r) (hw : gserializedGetUint32T buf off = .ok w)
    (hp : w.toNat = pointType) : lwpointFromGserializedBuffer buf off f = .ok r := by
  cases fuel with
  | zero => cases h
  | succ fuel =>
    obtain ⟨w', hw', hc⟩ := lwgeomFromGserializedBuffer_cases h
    obtain rfl := Except.ok.inj (hw'.symm.trans hw)
    rcases hc with ⟨-, h⟩ | ⟨hl, -⟩ | ⟨hl, -⟩ | ⟨hl, -⟩ | ⟨hl, -⟩ | ⟨hl, -⟩ <;>
      first | exact h | (rw [hp] at hl; cases hl)

theorem lwgeomFromGserializedBuffer_of_lineWord {fuel off : Nat} {f : UInt8} {r : Lwgeom × Nat} {w : UInt32}
    (h : lwgeomFromGserializedBuffer A buf fuel off f = .ok r) (hw : gserializedGetUint32T buf off = .ok w)
    (hl : w.toNat = lineType) : lwlineFromGserializedBuffer buf off f = .ok r := by
  cases fuel with
  | zero => cases h
  | succ fuel =>
    obtain ⟨w', hw', hc⟩ := lwgeomFromGserializedBuffer_cases h
    obtain rfl := Except.ok.inj (hw'.symm.trans hw)
    rcases hc with ⟨hp, -⟩ | ⟨-, h⟩ | ⟨hp, -⟩ | ⟨hp, -⟩ | ⟨hp, -⟩ | ⟨hp, -⟩ <;>
      first | exact h | (rw [hl] at hp; cases hp)

theorem lwgeomFromGserializedBuffer_of_collectionWord {fuel off : Nat} {f : UInt8} {r : Lwgeom × Nat}
    {w : UInt32} (h : lwgeomFromGserializedBuffer A buf fuel off f = .ok r)
    (hw : gserializedGetUint32T buf off = .ok w) (hc : isCollectionType w.toNat) :
    ∃ fuel', lwcollectionFromGserializedBuffer A buf (lwgeomFromGserializedBuffer A buf fuel') off f = .ok r := by
  cases fuel with
  | zero => cases h
  | succ fuel =>
    obtain ⟨w', hw', hcases⟩ := lwgeomFromGserializedBuffer_cases h
    obtain rfl := Except.ok.inj (hw'.symm.trans hw)
    rcases hcases with ⟨hp, -⟩ | ⟨hp, -⟩ | ⟨hp, -⟩ | ⟨hp, -⟩ | ⟨hp, -⟩ | ⟨-, h⟩ <;>
      first | exact ⟨fuel, h⟩ | (rw [hp] at hc; cases hc)

end

/-! ### `gserialized_peek_first_point` -/

/-- On every record that `lwgeom_from_gserialized` reads as a Point, whatever
its bytes, `gserialized_peek_first_point` agrees with it: it finds a coordinate
exactly when the Point has one, and returns it on every axis of the record's
flags. -/
theorem gserializedPeekFirstPoint_of_lwgeomFromGserialized {c : Collaborators} {r : List UInt8} {f : UInt8}
    {b : Option Gbox} {s : Int} {pa : PointArray} (h : lwgeomFromGserialized c r = .ok (.point f b s pa))
    (out : Point4D) :
    ∃ o, gserializedPeekFirstPoint r out = .ok o ∧ (o.isSome ↔ 0 < pa.npoints) ∧
      ∀ pt, o = some pt → Axis.All f fun a k => pt.coord a = pa.ordinate 0 k := by
  obtain ⟨gFlags, gType, lwgeom, size, bbox, gSrid, hf, -, hdec, ht⟩ := lwgeomFromGserialized_ok_inv h
  obtain ⟨-, w, hw, htype⟩ := lwgeomFromGserializedBuffer_sound hdec
  -- the body is a Point, so its type word is `POINTTYPE` and the Point reader read it
  obtain ⟨f0, b0, s0, pa0, rfl⟩ : ∃ f0 b0 s0 pa0, lwgeom = .point f0 b0 s0 pa0 := by
    cases lwgeom <;> first | exact ⟨_, _, _, _, rfl⟩ | cases ht
  obtain ⟨rfl, -, -, rfl⟩ : f = gFlags ∧ b = bbox ∧ s = gSrid ∧ pa = pa0 := by
    simpa only [Lwgeom.setType, Lwgeom.setFlags, Lwgeom.setBbox, Lwgeom.setSrid, Lwgeom.point.injEq] using ht
  obtain ⟨n, pa', hn, hflags, hcount, hview, hpt⟩ :=
    lwpointFromGserializedBuffer_view (lwgeomFromGserializedBuffer_of_pointWord hdec hw htype.symm)
  cases hpt
  have hstart : (8 + if flagsGetBbox f = 1 then gserialized1BoxSize f else 0) =
      gserializedHeaderSize f := by rw [gserializedHeaderSize, gserialized1BoxSize_eq]
  rw [gserializedPeekFirstPoint, hf, ok_bind]
  dsimp only
  rw [hstart, hn, ok_bind]
  by_cases h0 : n = 0
  · subst h0
    exact ⟨none, rfl, by simp only [hcount, Option.isSome_none, Bool.false_eq_true, false_iff]; decide,
      fun _ h => by cases h⟩
  have hpos : n > 0 := show 0 < n.toNat from Nat.pos_of_ne_zero fun h => h0 (UInt32.toNat.inj h)
  obtain ⟨pt, hcopy, hall⟩ := gserialized1CopyPoint_eq out
    (show HoldsAt r (8 + 8 * (gserializedHeaderSize f / 8)) pa.serializedPointlist by
      rw [show 8 + 8 * (gserializedHeaderSize f / 8) = gserializedHeaderSize f + 8 by
        have := gserializedHeaderSize_mod f; omega]
      exact hview hpos)
    (by rw [hcount, if_pos hpos]; decide) (show flagsGetZm pa.flags = flagsGetZm f by rw [hflags, flagsGetZm_gflags])
  rw [if_neg h0, hw, ok_bind, if_pos (by rw [← htype]; rfl),
    show gserializedHeaderSize f + 8 = 8 + 8 * (gserializedHeaderSize f / 8) by
      have := gserializedHeaderSize_mod f; omega, hcopy]
  exact ⟨some pt, rfl, by simp only [hcount, if_pos hpos, Option.isSome_some]; decide,
    fun _ h => Option.some.inj h ▸ hall⟩

/-- The record around `overlongPoint`, whose count word says three points. -/
theorem overlongPoint_peekFirstPoint :
    ∃ f b s pa, lwgeomFromGserialized plainCollaborators (le32 (64 <<< 2) ++ [0, 0, 0, 0] ++ overlongPoint) =
        .ok (.point f b s pa) ∧
      ∃ o, gserializedPeekFirstPoint (le32 (64 <<< 2) ++ [0, 0, 0, 0] ++ overlongPoint) ⟨1, 1, 1, 1⟩ = .ok o ∧
        (o.isSome ↔ 0 < pa.npoints) ∧ ∀ pt, o = some pt → Axis.All f fun a k => pt.coord a = pa.ordinate 0 k :=
  have h : lwgeomFromGserialized plainCollaborators (le32 (64 <<< 2) ++ [0, 0, 0, 0] ++ overlongPoint) =
      .ok (.point _ _ _ _) := rfl
  ⟨_, _, _, _, h, gserializedPeekFirstPoint_of_lwgeomFromGserialized h _⟩

/-! ### `gserialized_peek_gbox_p` -/

@[simp] theorem Lwgeom.ordinates_setType (k : Nat) (g : Lwgeom) (t : Nat) :
    (g.setType t).ordinates k = g.ordinates k := by
  cases g <;> rfl

/-- On every box-free record that `lwgeom_from_gserialized` accepts, whatever
its bytes, a box from `gserialized_peek_gbox_p` rounds out the decoded
geometry's ordinates on every axis of the record's flags, when no ordinate is a
NaN and the collaborators admit only Points in a MultiPoint and only
LineStrings in a MultiLineString. -/
theorem gserializedPeekGboxP_of_lwgeomFromGserialized {c : Collaborators} {R : List UInt8} {t : Lwgeom}
    (hmp : ∀ s, c.allowsSubtype multiPointType s = true → s = pointType)
    (hml : ∀ s, c.allowsSubtype multiLineType s = true → s = lineType)
    (h : lwgeomFromGserialized c R = .ok t) (hnan : NanFree t.flags t.ordinates) {gbox box : Gbox}
    (hpeek : gserializedPeekGboxP R gbox = .ok (some box)) : box.RoundsOut t.flags t.ordinates := by
  obtain ⟨f, gType, lwgeom, size, bbox, gSrid, hf, hty, hdec, rfl⟩ := lwgeomFromGserialized_ok_inv h
  obtain ⟨type, flags, htype, h7, hbit, hcase⟩ := gserializedPeekGboxP_some hpeek
  obtain rfl := Except.ok.inj (h7.symm.trans hf)
  obtain rfl := Except.ok.inj (htype.symm.trans hty)
  have hhs : gserializedHeaderSize flags = 8 := by rw [gserializedHeaderSize, if_neg hbit]
  have hword : gserializedGetUint32T R 8 = .ok type := by rwa [gserializedGetType, h7, ok_bind, hhs] at htype
  rw [hhs] at hdec
  simp only [Lwgeom.flags_setSrid, Lwgeom.flags_setBbox, Lwgeom.flags_setFlags, Lwgeom.ordinates_setSrid,
    Lwgeom.ordinates_setBbox, Lwgeom.ordinates_setFlags, Lwgeom.ordinates_setType] at hnan ⊢
  have hzm : ∀ {f' : UInt8}, flagsGetZm f' = flagsGetZm flags →
      flagsGetZm (gflags (flagsGetZ f') (flagsGetM f')) = flagsGetZm flags :=
    fun h => (flagsGetZm_gflags _).trans h
  rcases hcase with ⟨hp, ⟨n', hn', hn0⟩, hc⟩ | ⟨hl, hn', hc⟩ | ⟨hmpt, hn1, hn3, hc⟩ | ⟨hmlt, hn1, hn3, hc⟩
  · -- a Point: a nonzero count word, and its coordinate at byte 16
    obtain ⟨n, pa, hn, hflags, hcount, hview, hpt⟩ :=
      lwpointFromGserializedBuffer_view (lwgeomFromGserializedBuffer_of_pointWord hdec hword hp)
    cases hpt
    obtain rfl := Except.ok.inj (hn'.symm.trans (readInt32_of_get hn))
    have hpos : n > 0 := show 0 < n.toNat by rw [Ne, toInt32_eq_zero n.toNat_lt_size] at hn0; omega
    exact roundsOut_of_coordinate (i := 1) (hview hpos) (by rw [hcount, if_pos hpos]) (hflags ▸ hzm rfl) hc
      (fun k => by simp [Lwgeom.ordinates, Lwgeom.pointArrays]) hnan
  · -- a LineString whose count word is two
    obtain ⟨n, pa, hn, hflags, hcount, hview, hpt⟩ :=
      pointListFromGserializedBuffer_view (lwgeomFromGserializedBuffer_of_lineWord hdec hword hl)
    cases hpt
    have h2 : n.toNat = 2 := (toInt32_eq_ofNat n.toNat_lt_size (by decide)).mp
      (Except.ok.inj ((readInt32_of_get hn).symm.trans hn'))
    exact roundsOut_of_segment (i := 1) (hview (show 0 < n.toNat by omega)) (hcount.trans h2)
      (hflags ▸ hzm rfl) hc (fun k => by simp) hnan
  all_goals
    -- a MultiPoint or MultiLineString of one child, read at byte 16
    obtain ⟨fuel, hcol⟩ := lwgeomFromGserializedBuffer_of_collectionWord hdec hword
      (by first | (rw [hmpt]; decide) | (rw [hmlt]; decide))
    obtain ⟨type0, ngeoms, gs, dptr, htype0, hng, hgs, hpt⟩ := lwcollectionFromGserializedBuffer_ok hcol
    obtain rfl := Except.ok.inj (htype0.symm.trans hword)
    have h1 : ngeoms = 1 := UInt32.toNat.inj ((toInt32_eq_ofNat ngeoms.toNat_lt_size (by decide)).mp
      (Except.ok.inj ((readInt32_of_get hng).symm.trans hn1)))
    subst h1
    obtain ⟨sub, child, subsize, hsub, hA, hchild, rfl⟩ := lwcollectionChildren_one hgs
    cases hpt
  · obtain ⟨n, pa, hn, hflags, hcount, hview, hpt⟩ := lwpointFromGserializedBuffer_view
      (lwgeomFromGserializedBuffer_of_pointWord hchild hsub (hmp _ (hmpt ▸ hA)))
    cases hpt
    have h1 : n.toNat = 1 := (toInt32_eq_ofNat n.toNat_lt_size (by decide)).mp
      (Except.ok.inj ((readInt32_of_get hn).symm.trans hn3))
    have hpos : n > 0 := show 0 < n.toNat by omega
    exact roundsOut_of_coordinate (i := 2) (hview hpos) (by rw [hcount, if_pos hpos])
      (hflags ▸ hzm (by simp only [flagsGetZm, flagsGetZ_setBbox, flagsGetM_setBbox])) hc
      (fun k => by simp [Lwgeom.ordinates, Lwgeom.ordinates.ordinatesList, Lwgeom.pointArrays]) hnan
  · obtain ⟨n, pa, hn, hflags, hcount, hview, hpt⟩ := pointListFromGserializedBuffer_view
      (lwgeomFromGserializedBuffer_of_lineWord hchild hsub (hml _ (hmlt ▸ hA)))
    cases hpt
    have h2 : n.toNat = 2 := (toInt32_eq_ofNat n.toNat_lt_size (by decide)).mp
      (Except.ok.inj ((readInt32_of_get hn).symm.trans hn3))
    exact roundsOut_of_segment (i := 2) (hview (show 0 < n.toNat by omega)) (hcount.trans h2)
      (hflags ▸ hzm (by simp only [flagsGetZm, flagsGetZ_setBbox, flagsGetM_setBbox])) hc
      (fun k => by simp [Lwgeom.ordinates, Lwgeom.ordinates.ordinatesList, Lwgeom.pointArrays]) hnan

/-- On every record without a stored box that `lwgeom_from_gserialized`
accepts, whatever its bytes, when no ordinate is a NaN, the collaborators admit
only Points in a MultiPoint and only LineStrings in a MultiLineString and their
calculated boxes are exact: a box `gserialized_peek_gbox_p` gives, and every box
`gserialized_get_gbox_p` returns by either of its routes, rounds out the
decoded geometry's ordinates on every axis of the record's flags. -/
theorem gserializedGetGboxP_of_lwgeomFromGserialized {c : Collaborators} {R : List UInt8} {t : Lwgeom}
    (hmp : ∀ s, c.allowsSubtype multiPointType s = true → s = pointType)
    (hml : ∀ s, c.allowsSubtype multiLineType s = true → s = lineType)
    (hcalc : ∀ t b, NanFree t.flags t.ordinates → c.calculateGbox t = some b → b.IsExactFor t)
    (h : lwgeomFromGserialized c R = .ok t) (hbit : flagsGetBbox t.flags = 0) (hnan : NanFree t.flags t.ordinates)
    (gbox : Gbox) :
    (∀ box, gserializedPeekGboxP R gbox = .ok (some box) → box.RoundsOut t.flags t.ordinates) ∧
      ∀ box, gserializedGetGboxP c R gbox = .ok (some box) → box.RoundsOut t.flags t.ordinates := by
  have hpeek : ∀ box, gserializedPeekGboxP R gbox = .ok (some box) → box.RoundsOut t.flags t.ordinates :=
    fun _ hp => gserializedPeekGboxP_of_lwgeomFromGserialized hmp hml h hnan hp
  refine ⟨hpeek, fun box hget => ?_⟩
  obtain ⟨f, gType, lwgeom, size, bbox, gSrid, hf, -, -, ht⟩ := lwgeomFromGserialized_ok_inv h
  have hflags : t.flags = f := by rw [ht]; simp only [Lwgeom.flags_setSrid, Lwgeom.flags_setBbox, Lwgeom.flags_setFlags]
  rw [gserializedGetGboxP, gserializedReadGboxP_of_bbox_zero hf (hflags ▸ hbit), ok_bind] at hget
  cases hp : gserializedPeekGboxP R gbox with
  | error e => rw [hp] at hget; cases hget
  | ok o =>
    cases o with
    | some box' => rw [hp] at hget; cases hget; exact hpeek _ hp
    | none =>
      -- the decode route: the calculated box of the decoded geometry, rounded out
      rw [hp, ok_bind, h, ok_bind] at hget
      obtain ⟨b, hcb, rfl⟩ : ∃ b, c.calculateGbox t = some b ∧ gboxFloatRound b = box := by
        revert hget; cases c.calculateGbox t <;> intro hget <;> cases hget; exact ⟨_, rfl, rfl⟩
      obtain ⟨hzb, hmb, -, hB⟩ := hcalc t b hnan hcb
      exact Axis.All.congr hzb hmb (gboxFloatRound_roundsOut (Axis.All.congr hzb.symm hmb.symm hB))

def unitMultiPoint : List UInt8 :=
  le32 (40 <<< 2) ++ [0, 0, 0, 0] ++ le32 multiPointType ++ le32 1 ++ le32 pointType ++ le32 1 ++
    le64 0x3FF0000000000000 ++ le64 0x4000000000000000

theorem unitMultiPoint_getGbox :
    (∀ s, typedCollaborators.allowsSubtype multiPointType s = true → s = pointType) ∧
    (∀ s, typedCollaborators.allowsSubtype multiLineType s = true → s = lineType) ∧
    (∀ t b, NanFree t.flags t.ordinates → typedCollaborators.calculateGbox t = some b → b.IsExactFor t) ∧
    ∃ t, lwgeomFromGserialized typedCollaborators unitMultiPoint = .ok t ∧ flagsGetBbox t.flags = 0 ∧
      NanFree t.flags t.ordinates ∧
      (∀ box, gserializedPeekGboxP unitMultiPoint gboxInit = .ok (some box) → box.RoundsOut t.flags t.ordinates) ∧
      ∀ box, gserializedGetGboxP typedCollaborators unitMultiPoint gboxInit = .ok (some box) →
        box.RoundsOut t.flags t.ordinates :=
  have hmp : ∀ s, typedCollaborators.allowsSubtype multiPointType s = true → s = pointType := fun s h => by
    simpa [typedCollaborators] using h
  have hml : ∀ s, typedCollaborators.allowsSubtype multiLineType s = true → s = lineType := fun s h => by
    simpa [typedCollaborators, multiLineType, multiPointType] using h
  have hcalc : ∀ t b, NanFree t.flags t.ordinates → typedCollaborators.calculateGbox t = some b →
      b.IsExactFor t := fun _ _ => calculateGboxCartesian_isExactFor
  have h : lwgeomFromGserialized typedCollaborators unitMultiPoint = .ok _ := rfl
  have hnan : NanFree _ _ := fun a _ => by cases a <;> decide
  ⟨hmp, hml, hcalc, _, h, rfl, hnan,
    gserializedGetGboxP_of_lwgeomFromGserialized hmp hml hcalc h rfl hnan gboxInit⟩

end GSerialized
