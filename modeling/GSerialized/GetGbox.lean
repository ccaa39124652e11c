import GSerialized.Peek

/-! The three routes of `gserialized_get_gbox_p` on the record that
`gserialized_from_lwgeom` writes: the stored box, the peek, and the box the
collaborators calculate for the decoded tree. On every axis of the record each
route gives the tree's extremes rounded out to floats. -/
namespace GSerialized

theorem toInt32_eq_ofNat {n k : Nat} (hn : n < 2 ^ 32) (hk : k < 2 ^ 31) : toInt32 n = k ↔ n = k := by
  unfold toInt32; split <;> omega

/-! The stored box. -/

theorem readBoxFloat_of_holdsAt {g : List UInt8} {off : Nat} {f : UInt32} (h : HoldsAt g off (floatBytes f)) :
    readBoxFloat g off = .ok (floatToDouble f) := by
  rw [readBoxFloat, gserializedGetUint32T_of_holdsAt h f.toNat_lt_size, ok_bind,
    UInt32.toNat.inj (toNat_ofNat_u32 f.toNat_lt_size)]; rfl

theorem readBoxFloat_pair {g : List UInt8} {off : Nat} {a b : UInt32} {rest : List UInt8}
    (h : HoldsAt g off (floatBytes a ++ (floatBytes b ++ rest))) :
    readBoxFloat g off = .ok (floatToDouble a) ∧ readBoxFloat g (off + 4) = .ok (floatToDouble b) ∧
      HoldsAt g (off + 8) rest := by
  obtain ⟨ha, h⟩ := holdsAt_append.mp h
  obtain ⟨hb, hr⟩ := holdsAt_append.mp h
  simp only [length_floatBytes, Nat.add_assoc] at hb hr
  exact ⟨readBoxFloat_of_holdsAt ha, readBoxFloat_of_holdsAt hb, hr⟩

theorem readBoxFloat_pair_last {g : List UInt8} {off : Nat} {a b : UInt32}
    (h : HoldsAt g off (floatBytes a ++ floatBytes b)) :
    readBoxFloat g off = .ok (floatToDouble a) ∧ readBoxFloat g (off + 4) = .ok (floatToDouble b) :=
  (readBoxFloat_pair (show HoldsAt g off (floatBytes a ++ (floatBytes b ++ [])) by rwa [List.append_nil])).imp_right
    And.left

/-- The axes a stored box holds under the record's flags: x and y, z on the
sphere or with Z, m off the sphere with M. -/
def Axis.stored (flags : UInt8) : Axis → Bool
  | .x | .y => true
  | .z => flagsGetGeodetic flags = 1 || flagsGetZ flags = 1
  | .m => flagsGetGeodetic flags ≠ 1 && flagsGetM flags = 1

theorem Axis.stored_of {f : UInt8} {P : Axis → Prop} (hx : P .x) (hy : P .y)
    (hz : flagsGetGeodetic f = 1 ∨ flagsGetZ f = 1 → P .z) (hm : flagsGetGeodetic f ≠ 1 → flagsGetM f = 1 → P .m) :
    ∀ a, a.stored f → P a
  | .x, _ => hx
  | .y, _ => hy
  | .z, h => hz (by simpa [Axis.stored] using h)
  | .m, h => by simp only [Axis.stored, Bool.and_eq_true, decide_eq_true_eq] at h; exact hm h.1 h.2

theorem Axis.stored_of_present {f : UInt8} (hgeo : flagsGetGeodetic f ≠ 1) {a : Axis} (h : a.present f) :
    a.stored f := by
  cases a <;> simp_all [Axis.stored, Axis.present]

/-- `gserialized_read_gbox_p` on a record holding the floats `gserialized_from_gbox`
writes for a box with the record's Z, M and geodetic bits: every axis the box
holds reads back, in its own slot, as the float the writer rounded it to. -/
theorem gserializedReadGboxP_of_holdsAt {R : List UInt8} {f : UInt8} {box : Gbox}
    (h7 : readU8 R 7 = .ok f) (hbit : flagsGetBbox f = 1) (hz : flagsGetZ box.flags = flagsGetZ f)
    (hm : flagsGetM box.flags = flagsGetM f) (hg : flagsGetGeodetic box.flags = flagsGetGeodetic f)
    (hbox : HoldsAt R 8 (gserializedFromGbox box)) (b0 : Gbox) :
    ∃ out, gserializedReadGboxP R b0 = .ok (some out) ∧ out.flags = f ∧
      ∀ a : Axis, a.stored f → out.lo a = floatToDouble (nextFloatDown (box.lo a)) ∧
        out.hi a = floatToDouble (nextFloatUp (box.hi a)) := by
  simp only [gserializedFromGbox, hz, hm, hg, List.append_assoc] at hbox
  obtain ⟨hx0, hx1, hbox⟩ := readBoxFloat_pair hbox
  obtain ⟨hy0, hy1, hbox⟩ := readBoxFloat_pair hbox
  rw [gserializedReadGboxP, h7, ok_bind, if_neg (by omega), hx0, ok_bind, hx1, ok_bind,
    hy0, ok_bind, hy1, ok_bind]
  have := flagsGetZ_le_one f; have := flagsGetM_le_one f
  by_cases hgeo : flagsGetGeodetic f = 1
  · simp only [hgeo, reduceIte] at hbox ⊢
    obtain ⟨hz0', hz1'⟩ := readBoxFloat_pair_last hbox
    rw [hz0', ok_bind, hz1', ok_bind]
    exact ⟨_, rfl, rfl, Axis.stored_of ⟨rfl, rfl⟩ ⟨rfl, rfl⟩ (fun _ => ⟨rfl, rfl⟩) (absurd hgeo)⟩
  simp only [hgeo, reduceIte] at hbox ⊢
  -- `simp` must not use `List.nil_append` here: as a definitional rewrite of the
  -- window it sends the kernel through the float rounding of both boxes
  rcases (show flagsGetZ f = 0 ∨ flagsGetZ f = 1 by omega) with hz0 | hz0 <;>
  rcases (show flagsGetM f = 0 ∨ flagsGetM f = 1 by omega) with hm0 | hm0 <;>
    simp only [hz0, hm0, Nat.one_ne_zero, Nat.zero_ne_one, reduceIte, List.append_nil, List.append_assoc,
      pure_bind] at hbox ⊢
  · exact ⟨_, rfl, rfl, Axis.stored_of ⟨rfl, rfl⟩ ⟨rfl, rfl⟩ (by omega) (by omega)⟩
  · rw [List.nil_append] at hbox
    obtain ⟨hm0', hm1'⟩ := readBoxFloat_pair_last hbox
    rw [hm0', ok_bind, hm1', ok_bind]
    exact ⟨_, rfl, rfl, Axis.stored_of ⟨rfl, rfl⟩ ⟨rfl, rfl⟩ (by omega) (fun _ _ => ⟨rfl, rfl⟩)⟩
  · obtain ⟨hz0', hz1'⟩ := readBoxFloat_pair_last hbox
    rw [hz0', ok_bind, hz1', ok_bind]
    exact ⟨_, rfl, rfl, Axis.stored_of ⟨rfl, rfl⟩ ⟨rfl, rfl⟩ (fun _ => ⟨rfl, rfl⟩) (by omega)⟩
  · obtain ⟨hz0', hz1', hbox⟩ := readBoxFloat_pair hbox
    obtain ⟨hm0', hm1'⟩ := readBoxFloat_pair_last hbox
    rw [hz0', ok_bind, hz1', ok_bind, pure_bind, hm0', ok_bind, hm1', ok_bind]
    exact ⟨_, rfl, rfl, Axis.stored_of ⟨rfl, rfl⟩ ⟨rfl, rfl⟩ (fun _ => ⟨rfl, rfl⟩) (fun _ _ => ⟨rfl, rfl⟩)⟩

theorem gserializedReadGboxP_recordOf (L : SridLimits) {g : Lwgeom} {box : Gbox} (body : List UInt8)
    (hbb : g.bbox = some box) (hb : g.boxMatches) (hbit : flagsGetBbox g.flags = 1)
    (hgeo : flagsGetGeodetic g.flags = 0) (b0 : Gbox) :
    ∃ out, gserializedReadGboxP (g.recordOf L body) b0 = .ok (some out) ∧ out.flags = g.flags ∧
      Axis.All g.flags fun a _ => out.lo a = floatToDouble (nextFloatDown (box.lo a)) ∧
        out.hi a = floatToDouble (nextFloatUp (box.hi a)) := by
  simp only [Lwgeom.boxMatches, hbb, Bool.and_eq_true, decide_eq_true_eq] at hb
  have hbox := Lwgeom.holdsAt_recordOf_boxBytes L g body
  rw [Lwgeom.boxBytes, hbb] at hbox
  obtain ⟨out, hread, hf, hout⟩ := gserializedReadGboxP_of_holdsAt (Lwgeom.readU8_recordOf_flags L g body)
    hbit hb.1.1 hb.1.2 hb.2 hbox b0
  exact ⟨out, hread, hf, fun a ha => hout a (Axis.stored_of_present (by omega) ha)⟩

theorem gserializedReadGboxP_of_bbox_zero {R : List UInt8} {f : UInt8} (h7 : readU8 R 7 = .ok f)
    (hbit : flagsGetBbox f = 0) (gbox : Gbox) : gserializedReadGboxP R gbox = .ok none := by
  rw [gserializedReadGboxP, h7, ok_bind, if_pos hbit]; rfl

/-! The peek. -/

theorem map_some_eq_ok {x : Except LwError Gbox} {b : Gbox} (h : some <$> x = .ok (some b)) : x = .ok b := by
  cases x with
  | error e => cases h
  | ok a => cases h; rfl

/-- What a box from the peek says of the record: its flags have no box bit, and
it has one of the four shapes the peek reads, with the counts the peek checks. -/
theorem gserializedPeekGboxP_some {R : List UInt8} {gbox box : Gbox}
    (h : gserializedPeekGboxP R gbox = .ok (some box)) :
    ∃ type flags, gserializedGetType R = .ok type ∧ readU8 R 7 = .ok flags ∧ flagsGetBbox flags ≠ 1 ∧
      ((type.toNat = pointType ∧ (∃ n, dataInt R 1 = .ok n ∧ n ≠ 0) ∧ peekCoordinate R flags gbox 1 = .ok box) ∨
        (type.toNat = lineType ∧ dataInt R 1 = .ok 2 ∧ peekSegment R flags gbox 1 = .ok box) ∨
        (type.toNat = multiPointType ∧ dataInt R 1 = .ok 1 ∧ dataInt R 3 = .ok 1 ∧
          peekCoordinate R flags gbox 2 = .ok box) ∨
        (type.toNat = multiLineType ∧ dataInt R 1 = .ok 1 ∧ dataInt R 3 = .ok 2 ∧
          peekSegment R flags gbox 2 = .ok box)) := by
  obtain ⟨type, htype, h⟩ := bind_eq_ok h
  obtain ⟨flags, h7, h⟩ := bind_eq_ok h
  obtain ⟨-, ⟨⟩⟩ | ⟨hgb, h⟩ := ite_eq_iff.mp h
  refine ⟨type, flags, htype, h7, fun hb => hgb (by simp [hb]), ?_⟩
  obtain ⟨hp, h⟩ | ⟨-, h⟩ := ite_eq_iff.mp h
  · obtain ⟨n, hn, h⟩ := bind_eq_ok h
    obtain ⟨-, ⟨⟩⟩ | ⟨h0, h⟩ := ite_eq_iff.mp h
    exact .inl ⟨hp, ⟨n, hn, h0⟩, map_some_eq_ok h⟩
  obtain ⟨hl, h⟩ | ⟨-, h⟩ := ite_eq_iff.mp h
  · obtain ⟨n, hn, h⟩ := bind_eq_ok h
    obtain ⟨-, ⟨⟩⟩ | ⟨h2, h⟩ := ite_eq_iff.mp h
    exact .inr (.inl ⟨hl, not_not.mp h2 ▸ hn, map_some_eq_ok h⟩)
  obtain ⟨hmp, h⟩ | ⟨-, h⟩ := ite_eq_iff.mp h
  · obtain ⟨n, hn, h⟩ := bind_eq_ok h
    obtain ⟨-, ⟨⟩⟩ | ⟨h1, h⟩ := ite_eq_iff.mp h
    obtain ⟨m, hm, h⟩ := bind_eq_ok h
    obtain ⟨-, ⟨⟩⟩ | ⟨h1', h⟩ := ite_eq_iff.mp h
    exact .inr (.inr (.inl ⟨hmp, not_not.mp h1 ▸ hn, not_not.mp h1' ▸ hm, map_some_eq_ok h⟩))
  obtain ⟨hml, h⟩ | ⟨-, ⟨⟩⟩ := ite_eq_iff.mp h
  obtain ⟨n, hn, h⟩ := bind_eq_ok h
  obtain ⟨-, ⟨⟩⟩ | ⟨h1, h⟩ := ite_eq_iff.mp h
  obtain ⟨m, hm, h⟩ := bind_eq_ok h
  obtain ⟨-, ⟨⟩⟩ | ⟨h2, h⟩ := ite_eq_iff.mp h
  exact .inr (.inr (.inr ⟨hml, not_not.mp h1 ▸ hn, not_not.mp h2 ▸ hm, map_some_eq_ok h⟩))

theorem gserializedPeekGboxP_ne_of_bbox {R : List UInt8} {f : UInt8} (h7 : readU8 R 7 = .ok f)
    (hbit : flagsGetBbox f = 1) (gbox box : Gbox) : gserializedPeekGboxP R gbox ≠ .ok (some box) := fun h => by
  obtain ⟨-, f', -, h7', hb, -⟩ := gserializedPeekGboxP_some h
  exact hb (Except.ok.inj (h7'.symm.trans h7) ▸ hbit)

section
variable {R : List UInt8} {f : UInt8} {pa : PointArray} {gbox box : Gbox} {vals : Nat → List UInt64} {i : Nat}

theorem roundsOut_of_coordinate (hpl : HoldsAt R (8 + 8 * i) pa.serializedPointlist) (hn : pa.npoints = 1)
    (hzm : flagsGetZm pa.flags = flagsGetZm f) (hc : peekCoordinate R f gbox i = .ok box)
    (hvals : ∀ k, vals k = pa.ordinates k) (hnan : NanFree f vals) : box.RoundsOut f vals := by
  obtain ⟨bx, hc', hf, hall⟩ := peekCoordinate_eq gbox hpl hn hzm
  obtain rfl := Except.ok.inj (hc.symm.trans hc')
  subst hf
  refine gboxFloatRound_roundsOut fun a ha => ?_
  have hv : vals (a.index bx.flags) = [pa.ordinate 0 (a.index bx.flags)] := by
    rw [hvals, pa.ordinates_of_npoints_one hn]
  show IsExtremes _ _ _
  rw [hv, (hall a ha).1, (hall a ha).2]
  exact isExtremes_singleton (hnan a ha _ (hv ▸ List.mem_singleton_self _))

theorem roundsOut_of_segment (hpl : HoldsAt R (8 + 8 * i) pa.serializedPointlist) (hn : pa.npoints = 2)
    (hzm : flagsGetZm pa.flags = flagsGetZm f) (hc : peekSegment R f gbox i = .ok box)
    (hvals : ∀ k, vals k = pa.ordinates k) (hnan : NanFree f vals) : box.RoundsOut f vals := by
  obtain ⟨bx, hc', hf, hall⟩ := peekSegment_eq gbox hpl hn hzm
  obtain rfl := Except.ok.inj (hc.symm.trans hc')
  subst hf
  refine gboxFloatRound_roundsOut fun a ha => ?_
  have hv : vals (a.index bx.flags) = [pa.ordinate 0 (a.index bx.flags), pa.ordinate 1 (a.index bx.flags)] := by
    rw [hvals, pa.ordinates_of_npoints_two hn]
  show IsExtremes _ _ _
  rw [hv, (hall a ha).1, (hall a ha).2]
  exact isExtremes_pair (hnan a ha _ (by simp [hv])) (hnan a ha _ (by simp [hv]))

theorem holdsAt_single_child {ty : Nat} {b : Option Gbox} {s : Int} {gs : List Lwgeom} (hfit : gs.length < 2 ^ 32)
    (h : HoldsAt R 8 (Lwgeom.collection ty f b s gs).layout) (h1 : dataInt R 1 = .ok 1) :
    ∃ c, gs = [c] ∧ HoldsAt R 16 c.layout := by
  obtain ⟨-, hn, hrest⟩ := holdsAt_words h
  obtain ⟨c, rfl⟩ := List.length_eq_one.mp ((toInt32_eq_ofNat hfit (by decide)).mp
    (Except.ok.inj ((readInt32_of_holdsAt hn hfit).symm.trans h1)))
  simp only [Lwgeom.layout.layoutList, List.append_nil] at hrest
  exact ⟨c, rfl, hrest⟩

end

theorem Lwgeom.eq_point_of_type {c : Lwgeom} (hk : c.knownKind) (h : c.type = pointType) :
    ∃ f b s pa, c = .point f b s pa := by
  cases c with
  | point f b s pa => exact ⟨f, b, s, pa, rfl⟩
  | collection t => exact absurd h (isCollectionType_spec hk).2.1
  | _ => cases h

theorem Lwgeom.eq_line_of_type {c : Lwgeom} (hk : c.knownKind) (h : c.type = lineType) :
    ∃ f b s pa, c = .line f b s pa := by
  cases c with
  | line f b s pa => exact ⟨f, b, s, pa, rfl⟩
  | collection t => exact absurd h (isCollectionType_spec hk).2.2.1
  | _ => cases h

theorem Lwgeom.eq_collection_of_type {c : Lwgeom} {ty : Nat} (h : c.type = ty) (hty : isCollectionType ty) :
    ∃ f b s gs, c = .collection ty f b s gs := by
  cases c with
  | collection t f b s gs => exact ⟨f, b, s, gs, by cases h; rfl⟩
  | _ => subst h; cases hty

section
variable {A : Nat → Nat → Bool} {R : List UInt8}

/-- The peek on a box-free record whose body holds a valid tree, with the
collections' admitted kinds of `lwcollection_allows_subtype`: a box it gives
rounds out the tree's extremes on every axis of the record. -/
theorem gserializedPeekGboxP_of_holdsAt (gbox : Gbox) {t : Lwgeom} (hv : t.valid A)
    (hmp : ∀ s, A multiPointType s = true → s = pointType) (hml : ∀ s, A multiLineType s = true → s = lineType)
    (h7 : readU8 R 7 = .ok t.flags) (hbit : flagsGetBbox t.flags = 0) (h : HoldsAt R 8 t.layout)
    (hnan : NanFree t.flags t.ordinates) {box : Gbox} (hpeek : gserializedPeekGboxP R gbox = .ok (some box)) :
    box.RoundsOut t.flags t.ordinates := by
  obtain ⟨hk, hadm, hzpa, hzc, hpt, hfit, hvc⟩ := Lwgeom.valid_node hv
  have ht := Lwgeom.type_lt_of_knownKind hk
  have htype : gserializedGetType R = .ok (UInt32.ofNat t.type) := by
    rw [gserializedGetType, h7, ok_bind, gserializedHeaderSize, hbit, if_neg Nat.zero_ne_one]
    exact gserializedGetUint32T_of_holdsAt (Lwgeom.holdsAt_type h) ht
  obtain ⟨type, flags, htype', h7', -, hcase⟩ := gserializedPeekGboxP_some hpeek
  obtain rfl := Except.ok.inj (htype'.symm.trans htype)
  obtain rfl := Except.ok.inj (h7'.symm.trans h7)
  rw [toNat_ofNat_u32 ht] at hcase
  rcases hcase with ⟨hty, ⟨n, hn, hn0⟩, hc⟩ | ⟨hty, hn, hc⟩ | ⟨hty, hn1, hn3, hc⟩ | ⟨hty, hn1, hn3, hc⟩
  · -- a Point: a nonzero count is its one coordinate
    obtain ⟨f, b, s, pa, rfl⟩ := Lwgeom.eq_point_of_type hk hty
    obtain ⟨-, hw, hpl⟩ := holdsAt_words h
    obtain rfl := Except.ok.inj (hn.symm.trans (readInt32_of_holdsAt hw pa.npoints_lt))
    have h1 : pa.npoints = 1 := by
      simp only [Lwgeom.pointAtMostOne, decide_eq_true_eq] at hpt
      rw [Ne, toInt32_eq_zero pa.npoints_lt] at hn0; omega
    exact roundsOut_of_coordinate (i := 1) hpl h1 (hzpa pa (List.mem_singleton_self _)) hc
      (fun k => by simp [Lwgeom.ordinates, Lwgeom.pointArrays]) hnan
  · -- a LineString of two points
    obtain ⟨f, b, s, pa, rfl⟩ := Lwgeom.eq_line_of_type hk hty
    obtain ⟨-, hw, hpl⟩ := holdsAt_words h
    have h2 : pa.npoints = 2 := (toInt32_eq_ofNat pa.npoints_lt (by decide)).mp
      (Except.ok.inj ((readInt32_of_holdsAt hw pa.npoints_lt).symm.trans hn))
    exact roundsOut_of_segment (i := 1) hpl h2 (hzpa pa (List.mem_singleton_self _)) hc
      (fun k => by simp [Lwgeom.ordinates, Lwgeom.pointArrays]) hnan
  · -- a MultiPoint of one Point of one coordinate
    obtain ⟨f, b, s, gs, rfl⟩ := Lwgeom.eq_collection_of_type hty (by decide)
    simp only [Lwgeom.countsFit, Lwgeom.geoms, Bool.and_eq_true, decide_eq_true_eq] at hfit
    obtain ⟨c, rfl, hc16⟩ := holdsAt_single_child hfit.1 h hn1
    have hmem := List.mem_singleton_self c
    obtain ⟨hkc, -, hzc', -⟩ := Lwgeom.valid_node (hvc c hmem)
    obtain ⟨f', b', s', pa, rfl⟩ := Lwgeom.eq_point_of_type hkc (hmp _ (by simpa [Lwgeom.admitted] using hadm))
    obtain ⟨-, hw, hpl⟩ := holdsAt_words hc16
    have h1 : pa.npoints = 1 := (toInt32_eq_ofNat pa.npoints_lt (by decide)).mp
      (Except.ok.inj ((readInt32_of_holdsAt hw pa.npoints_lt).symm.trans hn3))
    exact roundsOut_of_coordinate (i := 2) hpl h1 ((hzc' pa (List.mem_singleton_self _)).trans (hzc _ hmem)) hc
      (fun k => by simp [Lwgeom.ordinates, Lwgeom.ordinates.ordinatesList, Lwgeom.pointArrays]) hnan
  · -- a MultiLineString of one LineString of two points
    obtain ⟨f, b, s, gs, rfl⟩ := Lwgeom.eq_collection_of_type hty (by decide)
    simp only [Lwgeom.countsFit, Lwgeom.geoms, Bool.and_eq_true, decide_eq_true_eq] at hfit
    obtain ⟨c, rfl, hc16⟩ := holdsAt_single_child hfit.1 h hn1
    have hmem := List.mem_singleton_self c
    obtain ⟨hkc, -, hzc', -⟩ := Lwgeom.valid_node (hvc c hmem)
    obtain ⟨f', b', s', pa, rfl⟩ := Lwgeom.eq_line_of_type hkc (hml _ (by simpa [Lwgeom.admitted] using hadm))
    obtain ⟨-, hw, hpl⟩ := holdsAt_words hc16
    have h2 : pa.npoints = 2 := (toInt32_eq_ofNat pa.npoints_lt (by decide)).mp
      (Except.ok.inj ((readInt32_of_holdsAt hw pa.npoints_lt).symm.trans hn3))
    exact roundsOut_of_segment (i := 2) hpl h2 ((hzc' pa (List.mem_singleton_self _)).trans (hzc _ hmem)) hc
      (fun k => by simp [Lwgeom.ordinates, Lwgeom.ordinates.ordinatesList, Lwgeom.pointArrays]) hnan

end

/-! The record of a tree and the three routes together. -/

section
variable {c : Collaborators} {g : Lwgeom}

theorem isExactFor_prepareBbox (hnan : NanFree g.flags g.ordinates)
    (hcached : ∀ b, g.bbox = some b → b.IsExactFor g)
    (hcalc : ∀ t b, NanFree t.flags t.ordinates → c.calculateGbox t = some b → b.IsExactFor t) :
    ∀ b, (prepareBbox c g).bbox = some b → b.IsExactFor g := fun b hb => by
  simp only [prepareBbox, Lwgeom.bbox_setFlags] at hb
  split at hb
  · unfold lwgeomAddBbox at hb
    split at hb
    · rename_i box hcb
      rw [Lwgeom.bbox_setBbox, Option.some.injEq] at hb
      exact hb ▸ hcalc g box hnan hcb
    · exact hcached b hb
  · exact hcached b hb

@[simp] theorem ordinates_prepareBbox (k : Nat) : (prepareBbox c g).ordinates k = g.ordinates k := by
  obtain ⟨b, hb⟩ := prepareBbox_eq c g
  simp [hb]

theorem boxMatches_prepareBbox (hexact : ∀ b, (prepareBbox c g).bbox = some b → b.IsExactFor g) :
    (prepareBbox c g).boxMatches := by
  obtain ⟨bb, hP⟩ := prepareBbox_eq c g
  unfold Lwgeom.boxMatches
  split
  · rename_i b hb
    obtain ⟨hz, hm, hg, -⟩ := hexact b hb
    simp [hP, hz, hm, hg]
  · rfl

/-- The decode route: on the record of a valid tree where nothing wraps, the box
the collaborators calculate for the tree read back, rounded out, rounds out the
tree's extremes on every axis of its flags. -/
theorem roundsOut_of_decode (L : SridLimits) (hv : g.valid c.allowsSubtype) (hw : g.noWrap)
    (hb : (prepareBbox c g).boxMatches) (hnan : NanFree g.flags g.ordinates)
    (hcalc : ∀ t b, NanFree t.flags t.ordinates → c.calculateGbox t = some b → b.IsExactFor t) {box : Gbox}
    (hget : (lwgeomFromGserialized c ((prepareBbox c g).record L) >>= fun t =>
      pure ((c.calculateGbox t).map gboxFloatRound)) = .ok (some box)) :
    box.RoundsOut g.flags g.ordinates := by
  obtain ⟨bbox, hdec⟩ := lwgeomFromGserialized_record (c := c) L (valid_prepareBbox hv)
    (noWrap_prepareBbox hw) hb flagsGetBbox_prepareBbox
  rw [hdec, ok_bind] at hget
  obtain ⟨b, hcb, rfl⟩ : ∃ b, c.calculateGbox (((prepareBbox c g).decoded (prepareBbox c g).flags).setBbox
      bbox |>.setSrid (clampSrid L (prepareBbox c g).srid)) = some b ∧ gboxFloatRound b = box := by
    revert hget; cases c.calculateGbox _ <;> intro hget <;> cases hget; exact ⟨_, rfl, rfl⟩
  have hdecoded : ∀ k, Lwgeom.ordinates k (((prepareBbox c g).decoded (prepareBbox c g).flags).setBbox bbox |>.setSrid
      (clampSrid L (prepareBbox c g).srid)) = g.ordinates k := fun k => by
    rw [Lwgeom.ordinates_setSrid, Lwgeom.ordinates_setBbox, Lwgeom.ordinates_decoded (valid_prepareBbox hv) rfl,
      ordinates_prepareBbox]
  obtain ⟨hzb, hmb, -, hB⟩ := hcalc _ b (by
    simp only [Lwgeom.flags_setSrid, Lwgeom.flags_setBbox, Lwgeom.flags_decoded, hdecoded]
    exact Axis.All.congr flagsGetZ_prepareBbox.symm flagsGetM_prepareBbox.symm hnan) hcb
  simp only [Lwgeom.flags_setSrid, Lwgeom.flags_setBbox, Lwgeom.flags_decoded, hdecoded] at hzb hmb hB
  exact Axis.All.congr (hzb.trans flagsGetZ_prepareBbox) (hmb.trans flagsGetM_prepareBbox)
    (gboxFloatRound_roundsOut (Axis.All.congr hzb.symm hmb.symm hB))

end

section
variable {c : Collaborators} {g : Lwgeom}

/-- The stored route: on the record of a non-geodetic tree whose prepared box
is exact, whatever body follows the box, the peek gives nothing and
`gserialized_get_gbox_p` returns the stored box. -/
theorem gserializedGetGboxP_recordOf_stored (L : SridLimits) (body : List UInt8)
    (hgeo : flagsGetGeodetic g.flags = 0) (hexact : ∀ b, (prepareBbox c g).bbox = some b → b.IsExactFor g)
    {box0 : Gbox} (hbb : (prepareBbox c g).bbox = some box0) :
    (∀ box, gserializedPeekGboxP ((prepareBbox c g).recordOf L body) gboxInit = .ok (some box) →
        box.RoundsOut g.flags g.ordinates ∧
          gserializedGetGboxP c ((prepareBbox c g).recordOf L body) gboxInit = .ok (some box)) ∧
      ∀ box, gserializedGetGboxP c ((prepareBbox c g).recordOf L body) gboxInit = .ok (some box) →
        box.RoundsOut g.flags g.ordinates := by
  obtain ⟨bb, hP⟩ := prepareBbox_eq c g
  have hbit : flagsGetBbox (prepareBbox c g).flags = 1 := by rw [flagsGetBbox_prepareBbox, hbb]; rfl
  obtain ⟨out, hread, -, hout⟩ := gserializedReadGboxP_recordOf L body hbb (boxMatches_prepareBbox hexact) hbit
    (by rw [hP, Lwgeom.flags_setFlags, flagsGetGeodetic_setBbox, hgeo]) gboxInit
  obtain ⟨-, -, -, hB⟩ := hexact box0 hbb
  refine ⟨fun box hp => absurd hp (gserializedPeekGboxP_ne_of_bbox (Lwgeom.readU8_recordOf_flags L _ body) hbit _ _),
    fun box hget => ?_⟩
  rw [gserializedGetGboxP, hread] at hget
  cases hget
  exact fun a ha => ⟨box0.lo a, box0.hi a, hB a ha,
    Axis.All.congr flagsGetZ_prepareBbox flagsGetM_prepareBbox hout a ha⟩

/-- The box-free record of a valid tree: the peek's box rounds out the tree's
extremes and is the box `gserialized_get_gbox_p` returns; when the peek gives
none, the decode route's box rounds them out as `hdec` says. -/
theorem gserializedGetGboxP_record_boxFree (L : SridLimits) (hv : g.valid c.allowsSubtype)
    (hnan : NanFree g.flags g.ordinates)
    (hmp : ∀ s, c.allowsSubtype multiPointType s = true → s = pointType)
    (hml : ∀ s, c.allowsSubtype multiLineType s = true → s = lineType) (hbb : (prepareBbox c g).bbox = none)
    (hdec : ∀ box, (lwgeomFromGserialized c ((prepareBbox c g).record L) >>= fun t =>
      pure ((c.calculateGbox t).map gboxFloatRound)) = .ok (some box) → box.RoundsOut g.flags g.ordinates) :
    (∀ box, gserializedPeekGboxP ((prepareBbox c g).record L) gboxInit = .ok (some box) →
        box.RoundsOut g.flags g.ordinates ∧ gserializedGetGboxP c ((prepareBbox c g).record L) gboxInit = .ok (some box)) ∧
      ∀ box, gserializedGetGboxP c ((prepareBbox c g).record L) gboxInit = .ok (some box) →
        box.RoundsOut g.flags g.ordinates := by
  rw [Lwgeom.record] at hdec ⊢
  have hz := flagsGetZ_prepareBbox (c := c) (g := g)
  have hm := flagsGetM_prepareBbox (c := c) (g := g)
  have hord : (prepareBbox c g).ordinates = g.ordinates := funext (ordinates_prepareBbox (c := c))
  have h7 := Lwgeom.readU8_recordOf_flags L (prepareBbox c g) (prepareBbox c g).layout
  have hbit : flagsGetBbox (prepareBbox c g).flags = 0 := by rw [flagsGetBbox_prepareBbox, hbb]; rfl
  have hread := gserializedReadGboxP_of_bbox_zero h7 hbit gboxInit
  have hbody := Lwgeom.holdsAt_recordOf L (prepareBbox c g) (prepareBbox c g).layout
  rw [Lwgeom.boxBytes, hbb] at hbody
  have hpeek : ∀ box, gserializedPeekGboxP ((prepareBbox c g).recordOf L (prepareBbox c g).layout) gboxInit =
      .ok (some box) → box.RoundsOut g.flags g.ordinates := fun box hp => by
    have := gserializedPeekGboxP_of_holdsAt gboxInit (valid_prepareBbox hv) hmp hml h7 hbit hbody
      (hord ▸ Axis.All.congr hz.symm hm.symm hnan) hp
    rw [hord] at this
    exact Axis.All.congr hz hm this
  refine ⟨fun box hp => ⟨hpeek box hp, by rw [gserializedGetGboxP, hread, ok_bind, hp]; rfl⟩, fun box hget => ?_⟩
  rw [gserializedGetGboxP, hread, ok_bind] at hget
  cases hp : gserializedPeekGboxP ((prepareBbox c g).recordOf L (prepareBbox c g).layout) gboxInit with
  | error e => rw [hp] at hget; cases hget
  | ok o =>
    cases o with
    | some box' => rw [hp] at hget; cases hget; exact hpeek _ hp
    | none => rw [hp, ok_bind] at hget; exact hdec box hget

end

/-- On the record `gserialized_from_lwgeom` writes for a valid non-geodetic tree
where nothing wraps, without NaN ordinates, whose cached box is exact, with
collaborators whose calculated boxes are exact and which admit only Points in a
MultiPoint and only LineStrings in a MultiLineString: a box the peek gives is
the box `gserialized_get_gbox_p` returns, and every box `gserialized_get_gbox_p`
returns, by any route, holds on every axis of the record the tree's least
ordinate rounded down to a float and its greatest rounded up. -/
theorem gserializedGetGboxP_roundsOut (L : SridLimits) (c : Collaborators) (g : Lwgeom)
    (hv : g.valid c.allowsSubtype) (hw : g.noWrap) (hgeo : flagsGetGeodetic g.flags = 0)
    (hnan : NanFree g.flags g.ordinates)
    (hmp : ∀ s, c.allowsSubtype multiPointType s = true → s = pointType)
    (hml : ∀ s, c.allowsSubtype multiLineType s = true → s = lineType)
    (hcached : ∀ b, g.bbox = some b → b.IsExactFor g)
    (hcalc : ∀ t b, NanFree t.flags t.ordinates → c.calculateGbox t = some b → b.IsExactFor t) :
    ∃ r, gserializedFromLwgeom L c g = .ok r ∧
      (∀ box, gserializedPeekGboxP r gboxInit = .ok (some box) →
        box.RoundsOut g.flags g.ordinates ∧ gserializedGetGboxP c r gboxInit = .ok (some box)) ∧
      ∀ box, gserializedGetGboxP c r gboxInit = .ok (some box) → box.RoundsOut g.flags g.ordinates := by
  have hexact := isExactFor_prepareBbox hnan hcached hcalc
  have hb := boxMatches_prepareBbox hexact
  refine ⟨_, gserializedFromLwgeom_eq_record L hv (Lwgeom.runsFit_of_noWrap hw) hb, ?_⟩
  cases hbb : (prepareBbox c g).bbox with
  | some box0 => exact gserializedGetGboxP_recordOf_stored L _ hgeo hexact hbb
  | none => exact gserializedGetGboxP_record_boxFree L hv hnan hmp hml hbb fun _ => roundsOut_of_decode L hv hw hb hnan hcalc

/-- Collaborators with the reference box calculator that never ask for a box,
and that admit only Points in a MultiPoint and only LineStrings in a
MultiLineString, as `lwcollection_allows_subtype` does. -/
def typedCollaborators : Collaborators :=
  ⟨fun _ => false, fun _ => false, calculateGboxCartesian,
    fun t s => if t = multiPointType then s = pointType else if t = multiLineType then s = lineType else true,
    fun x _ _ => (x, x)⟩

theorem samplePoint_getGboxP :
    samplePoint.valid typedCollaborators.allowsSubtype ∧ samplePoint.noWrap ∧
      flagsGetGeodetic samplePoint.flags = 0 ∧ NanFree samplePoint.flags samplePoint.ordinates ∧
      (∀ s, typedCollaborators.allowsSubtype multiPointType s = true → s = pointType) ∧
      (∀ s, typedCollaborators.allowsSubtype multiLineType s = true → s = lineType) ∧
      (∀ b, samplePoint.bbox = some b → b.IsExactFor samplePoint) ∧
      (∀ t b, NanFree t.flags t.ordinates → typedCollaborators.calculateGbox t = some b → b.IsExactFor t) ∧
    ∃ r, gserializedFromLwgeom sampleSridLimits typedCollaborators samplePoint = .ok r ∧
      (∀ box, gserializedPeekGboxP r gboxInit = .ok (some box) →
        box.RoundsOut samplePoint.flags samplePoint.ordinates ∧
          gserializedGetGboxP typedCollaborators r gboxInit = .ok (some box)) ∧
      ∀ box, gserializedGetGboxP typedCollaborators r gboxInit = .ok (some box) →
        box.RoundsOut samplePoint.flags samplePoint.ordinates :=
  have hnan : NanFree samplePoint.flags samplePoint.ordinates := fun a _ => by cases a <;> decide
  have hmp : ∀ s, typedCollaborators.allowsSubtype multiPointType s = true → s = pointType := fun s h => by
    simpa [typedCollaborators] using h
  have hml : ∀ s, typedCollaborators.allowsSubtype multiLineType s = true → s = lineType := fun s h => by
    simpa [typedCollaborators, multiLineType, multiPointType] using h
  have hcalc : ∀ t b, NanFree t.flags t.ordinates → typedCollaborators.calculateGbox t = some b →
      b.IsExactFor t := fun _ _ => calculateGboxCartesian_isExactFor
  ⟨rfl, rfl, rfl, hnan, hmp, hml, (fun _ h => by cases h), hcalc,
    gserializedGetGboxP_roundsOut _ _ _ rfl rfl rfl hnan hmp hml (fun _ h => by cases h) hcalc⟩

/-- What `gserialized_from_lwgeom` asks of `lwgeom_needs_bbox`,
`lwgeom_is_empty` and the box calculator under the spec's encoder, where
every kind but a Point needs a box unless it is empty: a tree that needs none
is a Point or has no coordinate, an empty tree has no coordinate, and every
non-geodetic tree with a coordinate gets a box. -/
structure Collaborators.BoxPolicy (c : Collaborators) : Prop where
  needsBbox : ∀ t, c.needsBbox t = false → t.type = pointType ∨ t.noCoordinates = true
  isEmpty : ∀ t, c.isEmpty t = true → t.noCoordinates = true
  calculateGbox : ∀ t, flagsGetGeodetic t.flags = 0 → t.noCoordinates = false → (c.calculateGbox t).isSome

/-- `typedCollaborators` with the box policy: every kind but a Point asks for
a box, and a tree without a coordinate is empty. -/
def policyCollaborators : Collaborators :=
  ⟨fun t => t.type != pointType, Lwgeom.noCoordinates, calculateGboxCartesian, typedCollaborators.allowsSubtype,
    fun x _ _ => (x, x)⟩

theorem policyCollaborators_boxPolicy : policyCollaborators.BoxPolicy where
  needsBbox _ h := .inl (by simpa [policyCollaborators] using h)
  isEmpty _ h := h
  calculateGbox _ hgeo hc := calculateGboxCartesian_isSome hgeo hc

end GSerialized
