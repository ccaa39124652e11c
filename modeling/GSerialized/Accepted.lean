import GSerialized.Alignment

/-! What the body reader accepts. Whatever bytes it is given, every tree
`lwgeom_from_gserialized_buffer` returns is one the round trip is stated for,
already in the form the reader gives it: the writer takes it back, and the
reader reads the writer's bytes as the same tree. -/
namespace GSerialized

theorem flagsGetZm_gflags (flags : UInt8) :
    flagsGetZm (gflags (flagsGetZ flags) (flagsGetM flags)) = flagsGetZm flags := by
  simp only [flagsGetZm, flagsGetZ_gflags, flagsGetM_gflags]

namespace PointArray

theorem view_of_flags {pa : PointArray} {flags : UInt8}
    (h : pa.flags = gflags (flagsGetZ flags) (flagsGetM flags)) : pa.view flags = pa := by
  obtain ⟨pf, n, d, hn, hl⟩ := pa
  subst h
  rw [view, dif_pos rfl]

end PointArray

namespace Lwgeom

theorem valid_of_node {A : Nat → Nat → Bool} {g : Lwgeom} (hk : g.knownKind) (ha : g.admitted A)
    (hz : g.zmUniform) (hp : g.pointAtMostOne) (hc : g.countsFit) (hch : ∀ c ∈ g.geoms, c.valid A) :
    g.valid A :=
  (all_iff _ g).mpr ⟨by simp only [hk, ha, hz, hp, hc, Bool.and_self], hch⟩

end Lwgeom

section
variable {A : Nat → Nat → Bool} {buf : List UInt8} {f : UInt8}

/-! ### One reader at a time -/

theorem ptarrayConstructReferenceData_ok {hasz hasm : Nat} {n : UInt32} {off : Nat} {pa : PointArray}
    (h : ptarrayConstructReferenceData buf hasz hasm n off = .ok pa) :
    pa.flags = gflags hasz hasm ∧ pa.npoints = n.toNat := by
  unfold ptarrayConstructReferenceData at h
  split at h
  · cases h; exact ⟨rfl, rfl⟩
  · cases h

theorem leafArray_ok {n k : UInt32} {off : Nat} {pa : PointArray}
    (h : (if n > 0 then ptarrayConstructReferenceData buf (flagsGetZ f) (flagsGetM f) k off
      else pure (ptarrayConstructEmpty (flagsGetZ f) (flagsGetM f))) = .ok pa) :
    pa.flags = gflags (flagsGetZ f) (flagsGetM f) ∧ pa.npoints = if n > 0 then k.toNat else 0 := by
  rcases ite_eq_iff.mp h with ⟨hn, h⟩ | ⟨hn, h⟩
  · rw [if_pos hn]; exact ptarrayConstructReferenceData_ok h
  · cases h; rw [if_neg hn]; exact ⟨rfl, rfl⟩

theorem lwpointFromGserializedBuffer_ok {off : Nat} {r : Lwgeom × Nat}
    (h : lwpointFromGserializedBuffer buf off f = .ok r) :
    ∃ n pa, gserializedGetUint32T buf (off + 4) = .ok n ∧ pa.flags = gflags (flagsGetZ f) (flagsGetM f) ∧
      pa.npoints = (if n > 0 then 1 else 0) ∧
      r = (.point f none sridUnknown pa, 8 + n.toNat * flagsNdims f % 2 ^ 32 * 8) := by
  obtain ⟨n, hn, h⟩ := bind_eq_ok h
  obtain ⟨pa, hpa, h⟩ := bind_eq_ok h
  obtain ⟨hf, hp⟩ := leafArray_ok hpa
  exact ⟨n, pa, hn, hf, hp, (Except.ok.inj h).symm⟩

theorem pointListFromGserializedBuffer_ok {mk : UInt8 → Option Gbox → Int → PointArray → Lwgeom} {off : Nat}
    {r : Lwgeom × Nat} (h : pointListFromGserializedBuffer mk buf off f = .ok r) :
    ∃ n pa, gserializedGetUint32T buf (off + 4) = .ok n ∧ pa.flags = gflags (flagsGetZ f) (flagsGetM f) ∧
      pa.npoints = n.toNat ∧ r = (mk f none sridUnknown pa, 8 + flagsNdims f * n.toNat % 2 ^ 32 * 8) := by
  obtain ⟨n, hn, h⟩ := bind_eq_ok h
  obtain ⟨pa, hpa, h⟩ := bind_eq_ok h
  obtain ⟨hf, hp⟩ := leafArray_ok hpa
  refine ⟨n, pa, hn, hf, hp.trans ?_, (Except.ok.inj h).symm⟩
  split
  · rfl
  · exact (Nat.eq_zero_of_not_pos ‹_›).symm

theorem lwpolyRings_ok : ∀ {k dptr optr : Nat} {rs : List PointArray} {optr' : Nat},
    lwpolyRings buf f k dptr optr = .ok (rs, optr') →
      rs.length = k ∧ ∀ r ∈ rs, r.flags = gflags (flagsGetZ f) (flagsGetM f)
  | 0, _, _, _, _, h => by cases h; exact ⟨rfl, fun r hr => absurd hr (List.not_mem_nil r)⟩
  | k + 1, dptr, optr, rs, optr', h => by
    rw [lwpolyRings] at h
    obtain ⟨npoints, -, h⟩ := bind_eq_ok h
    obtain ⟨ring, hring, h⟩ := bind_eq_ok h
    obtain ⟨⟨rest, optr''⟩, hrest, h⟩ := bind_eq_ok h
    cases h
    obtain ⟨hlen, hrs⟩ := lwpolyRings_ok hrest
    refine ⟨by rw [List.length_cons, hlen], fun r hr => ?_⟩
    rcases List.mem_cons.mp hr with rfl | hr
    · exact (ptarrayConstructReferenceData_ok hring).1
    · exact hrs r hr

theorem lwpolyFromGserializedBuffer_ok {off : Nat} {r : Lwgeom × Nat}
    (h : lwpolyFromGserializedBuffer buf off f = .ok r) :
    ∃ nrings rs optr, gserializedGetUint32T buf (off + 4) = .ok nrings ∧
      lwpolyRings buf f nrings.toNat (off + 8) (lwpolyOrdinateStart off nrings.toNat) = .ok (rs, optr) ∧
      r = (.polygon f none sridUnknown rs, optr - off) := by
  obtain ⟨nrings, hn, h⟩ := bind_eq_ok h
  obtain ⟨⟨rs, optr⟩, hrs, h⟩ := bind_eq_ok h
  exact ⟨nrings, rs, optr, hn, hrs, (Except.ok.inj h).symm⟩

theorem lwcollectionChildren_ok {type : UInt32} {decode : Nat → Except LwError (Lwgeom × Nat)}
    {P : Lwgeom → Prop} (hdec : ∀ {off t size}, decode off = .ok (t, size) →
      P t ∧ ∃ w, gserializedGetUint32T buf off = .ok w ∧ t.type = w.toNat) :
    ∀ {k dptr : Nat} {gs : List Lwgeom} {dptr' : Nat}, lwcollectionChildren A buf type decode k dptr = .ok (gs, dptr') →
      gs.length = k ∧ ∀ c ∈ gs, P c ∧ A type.toNat c.type
  | 0, _, _, _, h => by cases h; exact ⟨rfl, fun c hc => absurd hc (List.not_mem_nil c)⟩
  | k + 1, dptr, gs, dptr', h => by
    rw [lwcollectionChildren] at h
    obtain ⟨subtype, hsub, h⟩ := bind_eq_ok h
    split at h
    · cases h
    rename_i hA
    obtain ⟨_, -, h⟩ := bind_eq_ok h
    obtain ⟨⟨geom, subsize⟩, hgeom, h⟩ := bind_eq_ok h
    obtain ⟨⟨rest, dptr''⟩, hrest, h⟩ := bind_eq_ok h
    cases h
    obtain ⟨hP, w, hw, hty⟩ := hdec hgeom
    have hadm : A type.toNat geom.type := by
      rw [hsub] at hw; cases hw
      rw [hty]; simpa using hA
    obtain ⟨hlen, hcs⟩ := lwcollectionChildren_ok hdec hrest
    refine ⟨by rw [List.length_cons, hlen], fun c hc => ?_⟩
    rcases List.mem_cons.mp hc with rfl | hc
    · exact ⟨hP, hadm⟩
    · exact hcs c hc

theorem lwcollectionFromGserializedBuffer_ok {decode : Nat → UInt8 → Except LwError (Lwgeom × Nat)} {off : Nat}
    {r : Lwgeom × Nat} (h : lwcollectionFromGserializedBuffer A buf decode off f = .ok r) :
    ∃ type ngeoms gs dptr, gserializedGetUint32T buf off = .ok type ∧ gserializedGetUint32T buf (off + 4) = .ok ngeoms ∧
      lwcollectionChildren A buf type (decode · (flagsSetBbox f false)) ngeoms.toNat (off + 8) = .ok (gs, dptr) ∧
      r = (.collection type.toNat f none sridUnknown gs, dptr - off) := by
  obtain ⟨type, ht, h⟩ := bind_eq_ok h
  obtain ⟨ngeoms, hn, h⟩ := bind_eq_ok h
  obtain ⟨⟨gs, dptr⟩, hgs, h⟩ := bind_eq_ok h
  exact ⟨type, ngeoms, gs, dptr, ht, hn, hgs, (Except.ok.inj h).symm⟩

/-! ### Every tree the reader returns -/

theorem oneArray_valid {g : Lwgeom} {pa : PointArray} (hk : g.knownKind) (ha : g.admitted A)
    (hp : g.pointAtMostOne) (hg : g.geoms = []) (hpa : g.pointArrays = [pa])
    (hz : flagsGetZm pa.flags = flagsGetZm g.flags) : g.valid A :=
  Lwgeom.valid_of_node hk ha (by simp [Lwgeom.zmUniform, hg, hpa, hz]) hp
    (by simp [Lwgeom.countsFit, hg, hpa]) (by simp [hg])

/-- Every tree the reader returns, from any bytes, is valid, is its own decoded
form under the flags it was read with, and is of the kind its type word names. -/
theorem lwgeomFromGserializedBuffer_sound : ∀ {fuel off : Nat} {f : UInt8} {t : Lwgeom} {size : Nat},
    lwgeomFromGserializedBuffer A buf fuel off f = .ok (t, size) →
      (t.valid A ∧ t.decoded f = t) ∧ ∃ w, gserializedGetUint32T buf off = .ok w ∧ t.type = w.toNat
  | 0, _, _, _, _, h => by cases h
  | fuel + 1, off, f, t, size, h => by
    have hz := flagsGetZm_gflags f
    obtain ⟨w, hw, ⟨hty, h⟩ | ⟨hty, h⟩ | ⟨hty, h⟩ | ⟨hty, h⟩ | ⟨hty, h⟩ | ⟨hty, h⟩⟩ :=
      lwgeomFromGserializedBuffer_cases h
    · obtain ⟨n, pa, -, hf, hp, he⟩ := lwpointFromGserializedBuffer_ok h
      cases he
      have h1 : (Lwgeom.point f none sridUnknown pa).pointAtMostOne := by
        simp only [Lwgeom.pointAtMostOne, hp]; split <;> decide
      exact ⟨⟨oneArray_valid rfl rfl h1 rfl rfl (hf ▸ hz), by rw [Lwgeom.decoded, PointArray.view_of_flags hf]⟩,
        w, hw, hty.symm⟩
    · obtain ⟨n, pa, -, hf, -, he⟩ := pointListFromGserializedBuffer_ok h
      cases he
      exact ⟨⟨oneArray_valid rfl rfl rfl rfl rfl (hf ▸ hz), by rw [Lwgeom.decoded, PointArray.view_of_flags hf]⟩,
        w, hw, hty.symm⟩
    · obtain ⟨n, pa, -, hf, -, he⟩ := pointListFromGserializedBuffer_ok h
      cases he
      exact ⟨⟨oneArray_valid rfl rfl rfl rfl rfl (hf ▸ hz), by rw [Lwgeom.decoded, PointArray.view_of_flags hf]⟩,
        w, hw, hty.symm⟩
    · obtain ⟨nrings, rs, optr, -, hrs, he⟩ := lwpolyFromGserializedBuffer_ok h
      cases he
      obtain ⟨hlen, hf⟩ := lwpolyRings_ok hrs
      refine ⟨⟨Lwgeom.valid_of_node rfl rfl ?_ rfl ?_ nofun, ?_⟩, w, hw, hty.symm⟩
      · simp only [Lwgeom.zmUniform, Lwgeom.pointArrays, Lwgeom.geoms, Lwgeom.flags, List.all_nil,
          Bool.and_true, List.all_eq_true, decide_eq_true_eq]
        exact fun r hr => hf r hr ▸ hz
      · simpa [Lwgeom.countsFit, Lwgeom.geoms, Lwgeom.pointArrays, hlen] using nrings.toNat_lt_size
      · rw [Lwgeom.decoded, List.map_congr_left fun r hr => PointArray.view_of_flags (hf r hr), List.map_id']
    · obtain ⟨n, pa, -, hf, -, he⟩ := pointListFromGserializedBuffer_ok h
      cases he
      exact ⟨⟨oneArray_valid rfl rfl rfl rfl rfl (hf ▸ hz), by rw [Lwgeom.decoded, PointArray.view_of_flags hf]⟩,
        w, hw, hty.symm⟩
    · obtain ⟨ty, ngeoms, gs, dptr, hty', -, hgs, he⟩ := lwcollectionFromGserializedBuffer_ok h
      cases he
      rw [hw] at hty'; cases hty'
      obtain ⟨hlen, hcs⟩ := lwcollectionChildren_ok
        (P := fun c => c.valid A ∧ c.decoded (flagsSetBbox f false) = c)
        (fun h => lwgeomFromGserializedBuffer_sound h) hgs
      have hzc : ∀ c ∈ gs, flagsGetZm c.flags = flagsGetZm f := fun c hc => by
        rw [← (hcs c hc).1.2, Lwgeom.flags_decoded, flagsGetZm_setBbox]
      refine ⟨⟨Lwgeom.valid_of_node hty (List.all_eq_true.mpr fun c hc => (hcs c hc).2) ?_ rfl ?_
        fun c hc => (hcs c hc).1.1, ?_⟩, w, hw, rfl⟩
      · simp only [Lwgeom.zmUniform, Lwgeom.pointArrays, Lwgeom.geoms, Lwgeom.flags, List.all_nil,
          Bool.true_and, List.all_eq_true, decide_eq_true_eq]
        exact hzc
      · simpa [Lwgeom.countsFit, Lwgeom.geoms, Lwgeom.pointArrays, hlen] using ngeoms.toNat_lt_size
      · rw [Lwgeom.decoded, Lwgeom.decodedList_eq_map, List.map_congr_left fun c hc => (hcs c hc).1.2,
          List.map_id']

/-- Whatever bytes it reads, every tree the body reader returns is valid; when
no `uint32_t` product of the tree wraps, `gserialized_from_lwgeom_any` writes
its layout, and the reader, under the same flags, reads those bytes back as the
same tree spanning exactly them. -/
theorem lwgeomFromGserializedBuffer_reencode {fuel off : Nat} {f : UInt8} {t : Lwgeom} {size : Nat}
    (h : lwgeomFromGserializedBuffer A buf fuel off f = .ok (t, size)) (hw : t.noWrap) :
    t.valid A ∧ gserializedFromLwgeomAny t = .ok t.layout ∧
      ∀ (buf' : List UInt8) (off' fuel' : Nat), HoldsAt buf' off' t.layout → t.layout.length ≤ 8 * fuel' →
        lwgeomFromGserializedBuffer A buf' fuel' off' f = .ok (t, t.layout.length) := by
  obtain ⟨⟨hv, hd⟩, -⟩ := lwgeomFromGserializedBuffer_sound h
  refine ⟨hv, gserializedFromLwgeomAny_eq_layout t hv (Lwgeom.runsFit_of_noWrap hw), fun buf' off' fuel' h' hfuel => ?_⟩
  obtain ⟨k, rfl⟩ := Nat.exists_eq_succ_of_ne_zero (show fuel' ≠ 0 by have := t.layout_length_ge; omega)
  have hzm : flagsGetZm t.flags = flagsGetZm f := by rw [← hd, Lwgeom.flags_decoded]
  rw [lwgeomFromGserializedBuffer_of_holdsAt t hv hw h' hzm hfuel, hd]

end

/-- A Point whose count word says three: the reader takes its first point and
steps over all three. -/
def overlongPoint : List UInt8 := le32 pointType ++ le32 3 ++ List.replicate 48 0

theorem overlongPoint_reencode :
    ∃ t, lwgeomFromGserializedBuffer plainCollaborators.allowsSubtype overlongPoint 1 0 0 = .ok (t, 56) ∧
      t.noWrap ∧ t.valid plainCollaborators.allowsSubtype ∧ gserializedFromLwgeomAny t = .ok t.layout ∧
      ∀ (buf' : List UInt8) (off' fuel' : Nat), HoldsAt buf' off' t.layout → t.layout.length ≤ 8 * fuel' →
        lwgeomFromGserializedBuffer plainCollaborators.allowsSubtype buf' fuel' off' 0 = .ok (t, t.layout.length) :=
  have h : lwgeomFromGserializedBuffer plainCollaborators.allowsSubtype overlongPoint 1 0 0 = .ok (_, 56) := rfl
  ⟨_, h, rfl, lwgeomFromGserializedBuffer_reencode h rfl⟩

/-! ### `gserialized_is_empty` over what the reader accepts -/

theorem readU32_lt {buf : List UInt8} {off n : Nat} (h : readU32 buf off = some n) : n < 2 ^ 32 := by
  obtain ⟨bs, hbs, rfl⟩ := Option.map_eq_some'.mp h
  unfold readBytes at hbs
  split at hbs
  · cases hbs
    exact lt_of_lt_of_le (ofLe_lt _) (Nat.pow_le_pow_right (by decide) (List.length_take_le 4 _))
  · cases hbs

theorem readInt32_of_get {buf : List UInt8} {off : Nat} {w : UInt32} (h : gserializedGetUint32T buf off = .ok w) :
    readInt32 buf off = .ok (toInt32 w.toNat) := by
  unfold gserializedGetUint32T at h
  split at h
  · rename_i n hn
    cases h
    rw [readInt32, hn, toNat_ofNat_u32 (readU32_lt hn)]
  · cases h

theorem ite_count_eq_zero {n : UInt32} {k : Nat} (hk : 0 < k) : (if n > 0 then k else 0) = 0 ↔ n.toNat = 0 := by
  by_cases h : n > 0
  · rw [if_pos h]; change 0 < n.toNat at h; omega
  · rw [if_neg h]; change ¬0 < n.toNat at h; omega

section
variable {A : Nat → Nat → Bool} {buf : List UInt8}

theorem gserializedIsEmptyRecurse_of_leaf {fuel off : Nat} {w n : UInt32}
    (hw : gserializedGetUint32T buf off = .ok w) (ht : w.toNat < 16) (hc : lwtypeIsCollection w.toNat = false)
    (hn : gserializedGetUint32T buf (off + 4) = .ok n) :
    gserializedIsEmptyRecurse buf (fuel + 1) off = .ok (8, decide (n.toNat = 0)) := by
  rw [gserializedIsEmptyRecurse, readInt32_of_get hw, ok_bind, readInt32_of_get hn, ok_bind,
    toNat_toInt32 (by omega), hc]
  simp [toInt32_eq_zero n.toNat_lt_size]

theorem isEmpty_of_pointList {mk : UInt8 → Option Gbox → Int → PointArray → Lwgeom}
    (hmk : ∀ f b s pa, (mk f b s pa).countsEmpty = decide (pa.npoints = 0)) {fuel off : Nat} {f : UInt8}
    {w : UInt32} {t : Lwgeom} {size : Nat} (hw : gserializedGetUint32T buf off = .ok w) (ht : w.toNat < 16)
    (hc : lwtypeIsCollection w.toNat = false) (h : pointListFromGserializedBuffer mk buf off f = .ok (t, size)) :
    ∃ n, gserializedIsEmptyRecurse buf (fuel + 1) off = .ok (n, t.countsEmpty) ∧ (t.countsEmpty → n = size) := by
  obtain ⟨n, pa, hn4, -, hp, he⟩ := pointListFromGserializedBuffer_ok h
  cases he
  refine ⟨8, by rw [gserializedIsEmptyRecurse_of_leaf hw ht hc hn4, hmk, hp], fun he => ?_⟩
  rw [hmk, hp, decide_eq_true_eq] at he
  simp [he]

theorem isEmptyChildren_of_read {type : UInt32} {decode : Nat → Except LwError (Lwgeom × Nat)}
    {recurse : Nat → Except LwError (Nat × Bool)} (off : Nat)
    (hrec : ∀ {lz t size}, decode (off + lz) = .ok (t, size) → t.numFits →
      ∃ n, recurse lz = .ok (n, t.countsEmpty) ∧ (t.countsEmpty → n = size)) :
    ∀ {k lz : Nat} {gs : List Lwgeom} {dptr : Nat}, lwcollectionChildren A buf type decode k (off + lz) = .ok (gs, dptr) →
      (∀ c ∈ gs, c.numFits) →
      ∃ n, isEmptyChildren recurse k lz = .ok (n, gs.all Lwgeom.countsEmpty) ∧
        (gs.all Lwgeom.countsEmpty → off + n = dptr)
  | 0, lz, _, _, h, _ => by cases h; exact ⟨lz, rfl, fun _ => rfl⟩
  | k + 1, lz, gs, dptr, h, hn => by
    rw [lwcollectionChildren] at h
    obtain ⟨subtype, -, h⟩ := bind_eq_ok h
    split at h
    · cases h
    obtain ⟨_, -, h⟩ := bind_eq_ok h
    obtain ⟨⟨geom, subsize⟩, hgeom, h⟩ := bind_eq_ok h
    obtain ⟨⟨rest, dptr'⟩, hrest, h⟩ := bind_eq_ok h
    cases h
    obtain ⟨n, hn1, hsize⟩ := hrec hgeom (hn geom (List.mem_cons_self _ _))
    rw [isEmptyChildren, hn1, ok_bind]
    cases hce : geom.countsEmpty
    · exact ⟨lz + n, by simp [hce], by simp [hce]⟩
    · obtain rfl := hsize hce
      rw [Nat.add_assoc] at hrest
      obtain ⟨n', hloop, hend⟩ := isEmptyChildren_of_read off hrec hrest fun c hc => hn c (List.mem_cons_of_mem _ hc)
      exact ⟨n', by simpa [hce] using hloop, fun hall => hend (by simpa [hce] using hall)⟩

/-- Beside the reader, on any bytes it accepts: the walk reports whether every
leaf of the tree read has a zero count, and when it has, steps over exactly the
bytes the reader spanned. -/
theorem gserializedIsEmptyRecurse_of_read : ∀ {fuel off : Nat} {f : UInt8} {t : Lwgeom} {size : Nat},
    lwgeomFromGserializedBuffer A buf fuel off f = .ok (t, size) → t.numFits →
      ∃ n, gserializedIsEmptyRecurse buf fuel off = .ok (n, t.countsEmpty) ∧ (t.countsEmpty → n = size)
  | 0, _, _, _, _, h, _ => by cases h
  | fuel + 1, off, f, t, size, h, hn => by
    obtain ⟨w, hw, ⟨hty, h⟩ | ⟨hty, h⟩ | ⟨hty, h⟩ | ⟨hty, h⟩ | ⟨hty, h⟩ | ⟨hty, h⟩⟩ :=
      lwgeomFromGserializedBuffer_cases h
    · obtain ⟨n, pa, hn4, -, hp, he⟩ := lwpointFromGserializedBuffer_ok h
      cases he
      have hz : pa.npoints = 0 ↔ n.toNat = 0 := hp ▸ ite_count_eq_zero one_pos
      refine ⟨8, ?_, fun he => ?_⟩
      · rw [gserializedIsEmptyRecurse_of_leaf hw (by rw [hty]; decide) (by rw [hty]; rfl) hn4]
        exact congrArg (fun b => Except.ok (8, b)) (decide_eq_decide.mpr hz.symm)
      · have : n.toNat = 0 := hz.mp (of_decide_eq_true he)
        simp [this]
    · exact isEmpty_of_pointList (by exact fun _ _ _ _ => rfl) hw (by rw [hty]; decide) (by rw [hty]; rfl) h
    · exact isEmpty_of_pointList (by exact fun _ _ _ _ => rfl) hw (by rw [hty]; decide) (by rw [hty]; rfl) h
    · obtain ⟨nrings, rs, optr, hn4, hrs, he⟩ := lwpolyFromGserializedBuffer_ok h
      cases he
      have hlen := (lwpolyRings_ok hrs).1
      refine ⟨8, ?_, fun he => ?_⟩
      · rw [gserializedIsEmptyRecurse_of_leaf hw (by rw [hty]; decide) (by rw [hty]; rfl) hn4, ← hlen]
        rfl
      · have h0 : nrings.toNat = 0 := hlen ▸ of_decide_eq_true he
        rw [h0, lwpolyRings] at hrs
        cases hrs
        simp [lwpolyOrdinateStart]
    · exact isEmpty_of_pointList (by exact fun _ _ _ _ => rfl) hw (by rw [hty]; decide) (by rw [hty]; rfl) h
    · obtain ⟨ty, ngeoms, gs, dptr, hty', hng, hgs, he⟩ := lwcollectionFromGserializedBuffer_ok h
      cases he
      rw [hw] at hty'; cases hty'
      obtain ⟨hlen, -⟩ := lwcollectionChildren_ok (P := fun _ => True)
        (fun h => ⟨trivial, (lwgeomFromGserializedBuffer_sound h).2⟩) hgs
      have hfit : gs.length < 2 ^ 31 := of_decide_eq_true (Lwgeom.all_self hn)
      obtain ⟨htl, -⟩ := isCollectionType_spec hty
      rw [gserializedIsEmptyRecurse, readInt32_of_get hw, ok_bind, readInt32_of_get hng, ok_bind,
        toNat_toInt32 (by omega), toNat_toInt32 (by omega), lwtypeIsCollection, if_pos hty,
        Lwgeom.countsEmpty_collection]
      obtain ⟨n, hloop, hend⟩ := isEmptyChildren_of_read off
        (fun h hn => gserializedIsEmptyRecurse_of_read h hn) hgs fun c hc => Lwgeom.all_child hn hc
      exact ⟨n, hloop, fun hall => by have := hend hall; omega⟩

end

/-- What `lwgeom_from_gserialized` read on its way to a tree: the flags byte,
the type word, and the body, to which it gave the type, the flags, a box and
the SRID. -/
theorem lwgeomFromGserialized_ok_inv {c : Collaborators} {r : List UInt8} {t : Lwgeom}
    (h : lwgeomFromGserialized c r = .ok t) :
    ∃ gFlags gType lwgeom size bbox gSrid, readU8 r 7 = .ok gFlags ∧ gserializedGetType r = .ok gType ∧
      lwgeomFromGserializedBuffer c.allowsSubtype r r.length (gserializedHeaderSize gFlags) gFlags =
        .ok (lwgeom, size) ∧
      t = (((lwgeom.setType gType.toNat).setFlags gFlags).setBbox bbox).setSrid gSrid := by
  rw [lwgeomFromGserialized] at h
  obtain ⟨_, -, h⟩ := bind_eq_ok h
  obtain ⟨_, -, h⟩ := bind_eq_ok h
  obtain ⟨_, -, h⟩ := bind_eq_ok h
  obtain ⟨gFlags, hf, h⟩ := bind_eq_ok h
  obtain ⟨gType, ht, h⟩ := bind_eq_ok h
  obtain ⟨⟨lwgeom, size⟩, hdec, h⟩ := bind_eq_ok h
  obtain ⟨box, -, h⟩ := bind_eq_ok h
  exact ⟨gFlags, gType, lwgeom, size, _, _, hf, ht, hdec, (Except.ok.inj h).symm⟩

/-- On any record `lwgeom_from_gserialized` accepts, whatever its bytes,
`gserialized_is_empty` says whether every leaf of the geometry it returns has a
zero count, when every collection's count fits the walk's `int32_t`. -/
theorem gserializedIsEmpty_of_lwgeomFromGserialized {c : Collaborators} {r : List UInt8} {t : Lwgeom}
    (h : lwgeomFromGserialized c r = .ok t) (hn : t.numFits) : gserializedIsEmpty r = .ok t.countsEmpty := by
  obtain ⟨gFlags, gType, lwgeom, size, bbox, gSrid, hf, -, hdec, ht⟩ := lwgeomFromGserialized_ok_inv h
  subst ht
  simp only [Lwgeom.numFits_setSrid, Lwgeom.numFits_setBbox, Lwgeom.numFits_setFlags,
    Lwgeom.numFits_setType] at hn
  obtain ⟨n, hwalk, -⟩ := gserializedIsEmptyRecurse_of_read hdec hn
  rw [gserializedIsEmpty, hf, ok_bind]
  simp only [Lwgeom.countsEmpty_setSrid, Lwgeom.countsEmpty_setBbox, Lwgeom.countsEmpty_setFlags,
    Lwgeom.countsEmpty_setType]
  rw [show 8 + (if flagsGetBbox gFlags = 1 then gboxSerializedSize gFlags else 0) = gserializedHeaderSize gFlags
    from rfl, hwalk]
  rfl

theorem emptyPoints_isEmpty :
    ∃ r t, gserializedFromLwgeom sampleSridLimits plainCollaborators emptyPoints = .ok r ∧
      lwgeomFromGserialized plainCollaborators r = .ok t ∧ t.numFits ∧ gserializedIsEmpty r = .ok t.countsEmpty :=
  have h : lwgeomFromGserialized plainCollaborators
      (le32 (104 <<< 2) ++ [0, 0, 0, 0] ++ le32 collectionType ++ le32 11 ++
        (List.replicate 11 (le32 pointType ++ le32 0)).flatten) = .ok _ := rfl
  ⟨_, _, rfl, h, rfl, gserializedIsEmpty_of_lwgeomFromGserialized h rfl⟩

end GSerialized
