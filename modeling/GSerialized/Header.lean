import GSerialized.GetGbox
import GSerialized.Compare

/-! The readers of a record's header, against the record `gserialized_from_lwgeom`
writes: `SIZE_GET` of the size word, `gserialized_header_size`,
`gserialized_get_type`, `gserialized_read_gbox_p`, and
`gserialized_peek_first_point` with its own box size `gserialized1_box_size`.
The writer lays the box out by the box's flags; every reader skips it by the
record's. The size word holds the length in thirty bits. -/
namespace GSerialized

/-! ### What a successful encode wrote -/

section
variable {c : Collaborators} {g : Lwgeom}

/-- A successful `gserialized_from_lwgeom` wrote a body, the size calculator
counted the record it returns, and that record is the prepared tree's around
the body. -/
theorem gserializedFromLwgeom_ok {L : SridLimits} {r : List UInt8} (h : gserializedFromLwgeom L c g = .ok r) :
    ∃ body, gserializedFromLwgeomAny (prepareBbox c g) = .ok body ∧
      gserializedFromLwgeomSize (prepareBbox c g) = .ok ((prepareBbox c g).recordOf L body).length ∧
      r = (prepareBbox c g).recordOf L body := by
  unfold gserializedFromLwgeom at h
  dsimp only at h
  cases hs : gserializedFromLwgeomSize (prepareBbox c g) with
  | error e => rw [hs] at h; cases h
  | ok n =>
    cases hb : gserializedFromLwgeomAny (prepareBbox c g) with
    | error e => rw [hs, ok_bind, hb] at h; cases h
    | ok body =>
      rw [hs, ok_bind, hb, ok_bind] at h
      split at h
      · cases h
      · rename_i hn
        cases h
        refine ⟨body, rfl, ?_, rfl⟩
        rw [Lwgeom.length_recordOf]
        simp only [ne_eq, Decidable.not_not] at hn
        rw [hn]; rfl

theorem prepareBbox_of_bbox {b : Gbox} (hbb : g.bbox = some b) :
    prepareBbox c g = g.setFlags (flagsSetBbox g.flags true) := by
  simp [prepareBbox, hbb]

end

theorem map_eq_ok {α β : Type} {f : α → β} {x : Except LwError α} {b : β} (h : x.map f = .ok b) :
    ∃ a, x = .ok a ∧ b = f a := by
  cases x with
  | error e => cases h
  | ok a => exact ⟨a, rfl, (Except.ok.inj h).symm⟩

theorem type_prefix_of_gserializedFromLwgeomAny {g : Lwgeom} {body : List UInt8}
    (h : gserializedFromLwgeomAny g = .ok body) : g.knownKind ∧ le32 g.type <+: body := by
  cases g with
  | collection t f b s gs =>
    simp only [gserializedFromLwgeomAny] at h
    split at h
    · obtain ⟨sub, -, rfl⟩ := map_eq_ok h
      exact ⟨‹_›, by simp only [List.append_assoc]; exact List.prefix_append _ _⟩
    · cases h
  | polygon f b s rs =>
    obtain ⟨ords, -, rfl⟩ := map_eq_ok h
    exact ⟨rfl, by simp only [Lwgeom.type, List.append_assoc]; exact List.prefix_append _ _⟩
  | _ =>
    simp only [gserializedFromLwgeomAny, gserializedFromLwpoint, gserializedFromLwline,
      gserializedFromLwtriangle, gserializedFromLwcircstring, gserializedFromPointList] at h
    split at h
    · cases h
    · cases h; exact ⟨rfl, by simp only [Lwgeom.type, List.append_assoc]; exact List.prefix_append _ _⟩

theorem length_gserializedFromGbox_mod (b : Gbox) : (gserializedFromGbox b).length % 8 = 0 := by
  have := flagsGetZ_le_one b.flags; have := flagsGetM_le_one b.flags
  rw [length_gserializedFromGbox, gboxSerializedSize, flagsNdims]
  split <;> omega

theorem Lwgeom.length_boxBytes_mod (g : Lwgeom) : g.boxBytes.length % 8 = 0 := by
  unfold Lwgeom.boxBytes
  split
  · exact length_gserializedFromGbox_mod _
  · rfl

/-! ### The box and the readers that skip it -/

/-- `gserialized1_box_size`: the box size of the record's flags, as
`gserialized_peek_first_point` computes it. -/
def gserialized1BoxSize (flags : UInt8) : Nat :=
  if flagsGetGeodetic flags = 1 then 6 * 4 else 2 * flagsNdims flags * 4

@[simp] theorem Axis.stored_setBbox (flags : UInt8) (value : Bool) (a : Axis) :
    a.stored (flagsSetBbox flags value) = a.stored flags := by
  cases a <;> simp [Axis.stored]

@[simp] theorem gboxSerializedSize_setBbox (flags : UInt8) (value : Bool) :
    gboxSerializedSize (flagsSetBbox flags value) = gboxSerializedSize flags := by
  simp [gboxSerializedSize, flagsNdims]

/-- For a geometry whose cached box has its Z, M and geodetic bits, every reader
of the header finds the box where the writer put it: `gserialized_from_gbox`
writes `gbox_serialized_size` bytes after the first eight, the header size, the
type read and the first-point peek's box size skip exactly those bytes, and
`gserialized_read_gbox_p` reads each axis the box holds back from its own slot. -/
theorem gserializedFromLwgeom_boxReaders (L : SridLimits) (c : Collaborators) (g : Lwgeom) (b : Gbox)
    (hbb : g.bbox = some b) (hz : flagsGetZ b.flags = flagsGetZ g.flags)
    (hm : flagsGetM b.flags = flagsGetM g.flags) (hg : flagsGetGeodetic b.flags = flagsGetGeodetic g.flags)
    (r : List UInt8) (hr : gserializedFromLwgeom L c g = .ok r) :
    (gserializedFromGbox b).length = gboxSerializedSize g.flags ∧ HoldsAt r 8 (gserializedFromGbox b) ∧
    ∃ f, readU8 r 7 = .ok f ∧ gserializedHeaderSize f = 8 + gboxSerializedSize g.flags ∧
      gserialized1BoxSize f = gboxSerializedSize g.flags ∧
      gserializedGetType r = .ok (UInt32.ofNat g.type) ∧
      ∀ b0, ∃ out, gserializedReadGboxP r b0 = .ok (some out) ∧ out.flags = f ∧
        ∀ a : Axis, a.stored g.flags → out.lo a = floatToDouble (nextFloatDown (b.lo a)) ∧
          out.hi a = floatToDouble (nextFloatUp (b.hi a)) := by
  obtain ⟨body, hany, -, rfl⟩ := gserializedFromLwgeom_ok hr
  rw [prepareBbox_of_bbox hbb] at hany ⊢
  have hlen : (gserializedFromGbox b).length = gboxSerializedSize g.flags := by
    rw [length_gserializedFromGbox, gboxSerializedSize_congr hz hm hg]
  have hboxes : (g.setFlags (flagsSetBbox g.flags true)).boxBytes = gserializedFromGbox b := by
    simp only [Lwgeom.boxBytes, Lwgeom.bbox_setFlags, hbb]
  have h7 := Lwgeom.readU8_recordOf_flags L (g.setFlags (flagsSetBbox g.flags true)) body
  have hbox := Lwgeom.holdsAt_recordOf_boxBytes L (g.setFlags (flagsSetBbox g.flags true)) body
  have hbody := Lwgeom.holdsAt_recordOf L (g.setFlags (flagsSetBbox g.flags true)) body
  rw [hboxes] at hbox hbody
  rw [Lwgeom.flags_setFlags] at h7
  obtain ⟨hk, htype⟩ := type_prefix_of_gserializedFromLwgeomAny hany
  have ht := Lwgeom.type_lt_of_knownKind hk
  rw [Lwgeom.type_setFlags] at htype ht
  have hsize : gserializedHeaderSize (flagsSetBbox g.flags true) = 8 + gboxSerializedSize g.flags := by
    simp [gserializedHeaderSize]
  refine ⟨hlen, hbox, _, h7, hsize, by simp [gserialized1BoxSize, gboxSerializedSize, flagsNdims], ?_,
    fun b0 => ?_⟩
  · rw [gserializedGetType, h7, ok_bind, hsize, ← hlen]
    exact gserializedGetUint32T_of_holdsAt ⟨hbody.1, htype.trans hbody.2⟩ ht
  · obtain ⟨out, hread, hf, hout⟩ := gserializedReadGboxP_of_holdsAt h7 (by simp)
      (by simpa using hz) (by simpa using hm) (by simpa using hg) hbox b0
    exact ⟨out, hread, hf, fun a ha => hout a (by simpa using ha)⟩

def originArray : PointArray := ⟨0, 1, le64 0 ++ le64 0, by decide, by decide⟩

def originBox : Gbox := ⟨0, 0, 0, 0, 0, 0, 0, 0, 0⟩

def boxedPoint : Lwgeom := .point 0 (some originBox) 0 originArray

theorem boxedPoint_boxReaders :
    ∃ r, gserializedFromLwgeom sampleSridLimits typedCollaborators boxedPoint = .ok r ∧
      (gserializedFromGbox originBox).length = gboxSerializedSize boxedPoint.flags ∧
      HoldsAt r 8 (gserializedFromGbox originBox) ∧
      ∃ f, readU8 r 7 = .ok f ∧ gserializedHeaderSize f = 8 + gboxSerializedSize boxedPoint.flags ∧
        gserialized1BoxSize f = gboxSerializedSize boxedPoint.flags ∧
        gserializedGetType r = .ok (UInt32.ofNat boxedPoint.type) ∧
        ∀ b0, ∃ out, gserializedReadGboxP r b0 = .ok (some out) ∧ out.flags = f ∧
          ∀ a : Axis, a.stored boxedPoint.flags → out.lo a = floatToDouble (nextFloatDown (originBox.lo a)) ∧
            out.hi a = floatToDouble (nextFloatUp (originBox.hi a)) :=
  ⟨_, rfl, gserializedFromLwgeom_boxReaders sampleSridLimits typedCollaborators boxedPoint originBox rfl rfl rfl rfl
    _ rfl⟩

/-! ### The first point -/

structure Point4D where
  x : UInt64
  y : UInt64
  z : UInt64
  m : UInt64
  deriving DecidableEq, Repr

def Point4D.coord (p : Point4D) : Axis → UInt64
  | .x => p.x
  | .y => p.y
  | .z => p.z
  | .m => p.m

/-- `dptr[0]` for a `double *dptr` at byte `off` of the record. -/
def readDouble (g : List UInt8) (off : Nat) : Except LwError UInt64 :=
  match readBytes g off 8 with
  | some bytes => .ok (UInt64.ofNat (ofLe bytes))
  | none => .error (.readPastEnd off)

/-- `gserialized1_copy_point`: x and y, z when the flags have Z, then m when they
have M, from consecutive doubles at `dptr`; the fields the flags do not name
keep the caller's values. -/
def gserialized1CopyPoint (g : List UInt8) (dptr : Nat) (flags : UInt8) (outPoint : Point4D) :
    Except LwError Point4D := do
  let x ← readDouble g dptr
  let y ← readDouble g (dptr + 8)
  let (outPoint, dim) ← (if flagsGetZ flags = 1 then do
      let z ← readDouble g (dptr + 8 * 2)
      pure ({ outPoint with x, y, z }, 3)
    else pure ({ outPoint with x, y }, 2))
  if flagsGetM flags = 1 then do
    let m ← readDouble g (dptr + 8 * dim)
    pure { outPoint with m }
  else pure outPoint

/-- `gserialized_peek_first_point`: past the box its own box size skips, `none`
when the count word is zero, the first coordinate of a Point, and an error for
every other type. -/
def gserializedPeekFirstPoint (g : List UInt8) (outPoint : Point4D) : Except LwError (Option Point4D) := do
  let flags ← readU8 g 7
  let geometryStart := 8 + if flagsGetBbox flags = 1 then gserialized1BoxSize flags else 0
  let npoints ← gserializedGetUint32T g (geometryStart + 4)
  if npoints = 0 then pure none
  else
    let type ← gserializedGetUint32T g geometryStart
    if type.toNat = pointType then some <$> gserialized1CopyPoint g (geometryStart + 8) flags outPoint
    else throw (.notImplemented type.toNat)

theorem gserialized1BoxSize_eq (flags : UInt8) : gserialized1BoxSize flags = gboxSerializedSize flags := rfl

theorem readDouble_eq_dataDouble (g : List UInt8) (i : Nat) : readDouble g (8 + 8 * i) = dataDouble g i := rfl

theorem gserialized1CopyPoint_eq {R : List UInt8} {pa : PointArray} {i : Nat} {flags : UInt8} (out : Point4D)
    (h : HoldsAt R (8 + 8 * i) pa.serializedPointlist) (hn : 0 < pa.npoints)
    (hzm : flagsGetZm pa.flags = flagsGetZm flags) :
    ∃ pt, gserialized1CopyPoint R (8 + 8 * i) flags out = .ok pt ∧
      Axis.All flags fun a k => pt.coord a = pa.ordinate 0 k := by
  have rd : ∀ k, k < flagsNdims flags → readDouble R (8 + 8 * i + 8 * k) = .ok (pa.ordinate 0 k) :=
    fun k hk => by
      rw [show 8 + 8 * i + 8 * k = 8 + 8 * (i + k) by omega, readDouble_eq_dataDouble]
      exact pa.dataDouble_ordinate h hn (by rwa [flagsNdims_eq_of_zm hzm]) (by simp)
  have := flagsGetZ_le_one flags; have := flagsGetM_le_one flags
  simp only [flagsNdims] at rd
  have rx : readDouble R (8 + 8 * i) = .ok (pa.ordinate 0 0) := rd 0 (by omega)
  rw [gserialized1CopyPoint, rx, ok_bind, rd 1 (by omega), ok_bind]
  rcases (show flagsGetZ flags = 0 ∨ flagsGetZ flags = 1 by omega) with hz | hz <;>
  rcases (show flagsGetM flags = 0 ∨ flagsGetM flags = 1 by omega) with hm | hm <;>
    simp only [hz, hm, Nat.one_ne_zero, Nat.zero_ne_one, reduceIte, pure_bind] at rd ⊢
  · exact ⟨_, rfl, Axis.All.intro rfl rfl (by omega) (by omega)⟩
  · rw [rd 2 (by omega), ok_bind]
    exact ⟨_, rfl, Axis.All.intro rfl rfl (by omega) (fun _ => by rw [hz]; rfl)⟩
  · rw [rd 2 (by omega), ok_bind, pure_bind]
    exact ⟨_, rfl, Axis.All.intro rfl rfl (fun _ => rfl) (by omega)⟩
  · rw [rd 2 (by omega), ok_bind, pure_bind, rd 3 (by omega), ok_bind]
    exact ⟨_, rfl, Axis.All.intro rfl rfl (fun _ => rfl) (fun _ => by rw [hz]; rfl)⟩

/-- `gserialized_peek_first_point` on the record of a Point, whatever its Z, M and
geodetic bits and whatever box it carries: it succeeds exactly when the Point
holds its coordinate, and then returns it on every axis of the Point's flags. -/
theorem gserializedPeekFirstPoint_point (L : SridLimits) (c : Collaborators) (f : UInt8) (b : Option Gbox)
    (s : Int) (pa : PointArray) (h1 : pa.npoints ≤ 1) (r : List UInt8)
    (hr : gserializedFromLwgeom L c (.point f b s pa) = .ok r) (out : Point4D) :
    ∃ o, gserializedPeekFirstPoint r out = .ok o ∧ (o.isSome ↔ pa.npoints = 1) ∧
      ∀ pt, o = some pt → Axis.All f fun a k => pt.coord a = pa.ordinate 0 k := by
  obtain ⟨body, hany, hsize, rfl⟩ := gserializedFromLwgeom_ok hr
  obtain ⟨bb, hprep⟩ := prepareBbox_eq c (.point f b s pa)
  rw [hprep] at hany hsize ⊢
  simp only [Lwgeom.setBbox, Lwgeom.setFlags, Lwgeom.flags] at hany hsize ⊢
  have hzm : flagsGetZm pa.flags = flagsGetZm (flagsSetBbox f bb.isSome) := by
    by_contra hne
    rw [gserializedFromLwgeomAny, gserializedFromLwpoint, if_pos (Ne.symm hne)] at hany; cases hany
  rw [gserializedFromLwgeomAny, gserializedFromLwpoint_eq hzm h1] at hany
  cases hany
  generalize hg : Lwgeom.point (flagsSetBbox f bb.isSome) bb s pa = g at hsize ⊢
  have hw : pa.npoints * ptarrayPointSize (flagsSetBbox f bb.isSome) < 2 ^ 32 := by
    have := flagsNdims_le (flagsSetBbox f bb.isSome)
    have : pa.npoints * ptarrayPointSize (flagsSetBbox f bb.isSome) ≤ 1 * 32 :=
      Nat.mul_le_mul h1 (by rw [ptarrayPointSize]; omega)
    omega
  have hbox : g.boxBytes.length = if bb.isSome then gboxSerializedSize (flagsSetBbox f bb.isSome) else 0 := by
    subst hg
    simp only [gserializedFromLwgeomSize, gserializedFromAnySize, gserializedFromLwpointSize, ok_bind,
      Lwgeom.bbox, Lwgeom.flags, Lwgeom.length_recordOf, ptarrayNodeSize_eq hzm hw pointType] at hsize
    change Except.ok _ = Except.ok _ at hsize
    injection hsize with hsize
    omega
  have h7 := Lwgeom.readU8_recordOf_flags L g (le32 pointType ++ le32 pa.npoints ++ pa.serializedPointlist)
  obtain ⟨ht, hc, hpts⟩ := holdsAt_words (Lwgeom.holdsAt_recordOf L g
    (le32 pointType ++ le32 pa.npoints ++ pa.serializedPointlist))
  rw [show g.flags = flagsSetBbox f bb.isSome by rw [← hg]; rfl] at h7
  have hstart : (8 + if flagsGetBbox (flagsSetBbox f bb.isSome) = 1 then
      gserialized1BoxSize (flagsSetBbox f bb.isSome) else 0) = 8 + g.boxBytes.length := by
    rw [hbox, flagsGetBbox_setBbox, gserialized1BoxSize_eq]; cases bb.isSome <;> rfl
  rw [gserializedPeekFirstPoint, h7, ok_bind]
  dsimp only
  rw [hstart, gserializedGetUint32T_of_holdsAt hc pa.npoints_lt, ok_bind]
  rcases (show pa.npoints = 0 ∨ pa.npoints = 1 by omega) with h0 | h0
  · rw [if_pos (by rw [h0]; rfl)]
    exact ⟨none, rfl, by simp [h0], fun _ h => by cases h⟩
  · rw [if_neg (by rw [h0]; decide), gserializedGetUint32T_of_holdsAt ht (by decide), ok_bind,
      if_pos (toNat_ofNat_u32 (by decide))]
    have := g.length_boxBytes_mod
    rw [show 8 + g.boxBytes.length + 8 = 8 + 8 * ((g.boxBytes.length + 8) / 8) by omega] at hpts ⊢
    obtain ⟨pt, hcopy, hpt⟩ := gserialized1CopyPoint_eq out hpts (by omega) hzm
    rw [hcopy]
    exact ⟨some pt, rfl, by simp [h0], fun p hp => by
      cases hp; exact Axis.All.congr (by simp) (by simp) hpt⟩

theorem boxedPoint_peekFirstPoint :
    originArray.npoints ≤ 1 ∧ ∃ r, gserializedFromLwgeom sampleSridLimits typedCollaborators boxedPoint = .ok r ∧
      ∃ o, gserializedPeekFirstPoint r ⟨1, 1, 1, 1⟩ = .ok o ∧ (o.isSome ↔ originArray.npoints = 1) ∧
        ∀ pt, o = some pt → Axis.All 0 fun a k => pt.coord a = originArray.ordinate 0 k :=
  ⟨by decide, _, rfl, gserializedPeekFirstPoint_point sampleSridLimits typedCollaborators 0 (some originBox) 0
    originArray (by decide) _ rfl ⟨1, 1, 1, 1⟩⟩

/-! ### The size word -/

theorem le32_mod (n : Nat) : le32 (n % 2 ^ 32) = le32 n := by
  conv_rhs => rw [← leBytes_ofLe (le32 n), length_le32, ofLe_le32]
  rfl

/-- `SIZE_GET` of `size << 2` stored in a `uint32_t` is the size modulo `2^30`. -/
theorem sizeGet_shiftLeft (n : Nat) : sizeGet (n <<< 2 % 2 ^ 32) = n % 2 ^ 30 := by
  rw [sizeGet, Nat.shiftRight_eq_div_pow, Nat.shiftLeft_eq,
    show (0x3FFFFFFF : Nat) = 2 ^ 30 - 1 from rfl, Nat.and_pow_two_sub_one_eq_mod]
  omega

theorem gserializedSize_recordOf (L : SridLimits) (g : Lwgeom) (body : List UInt8) :
    gserializedSize (g.recordOf L body) = .ok ((g.recordOf L body).length % 2 ^ 30) := by
  have hlt : (8 + g.boxBytes.length + body.length) <<< 2 % 2 ^ 32 < 2 ^ 32 := Nat.mod_lt _ (by decide)
  have h : HoldsAt (g.recordOf L body) 0 (le32 ((8 + g.boxBytes.length + body.length) <<< 2 % 2 ^ 32)) := by
    rw [le32_mod]
    exact ⟨Nat.zero_le _, by simp only [Lwgeom.recordOf, List.drop_zero, List.append_assoc]; exact List.prefix_append _ _⟩
  rw [gserializedSize, gserializedGetUint32T_of_holdsAt h hlt, ok_bind, toNat_ofNat_u32 hlt, sizeGet_shiftLeft,
    Lwgeom.length_recordOf]
  rfl

/-- On the valid trees where no `uint32_t` product wraps and whose prepared box
lays out like the geometry, `gserialized_from_lwgeom` returns a record of the
header, the box and the layout, and its size word gives that length modulo
`2^30`. -/
theorem gserializedFromLwgeom_sizeWord (L : SridLimits) (c : Collaborators) (g : Lwgeom)
    (hv : g.valid c.allowsSubtype) (hw : g.noWrap) (hb : (prepareBbox c g).boxMatches) :
    ∃ r, gserializedFromLwgeom L c g = .ok r ∧
      r.length = 8 + (if (prepareBbox c g).bbox.isSome then gboxSerializedSize (prepareBbox c g).flags else 0) +
        g.layout.length ∧
      gserializedSize r = .ok (r.length % 2 ^ 30) := by
  refine ⟨_, gserializedFromLwgeom_eq_record L hv (Lwgeom.runsFit_of_noWrap hw) hb, ?_, gserializedSize_recordOf _ _ _⟩
  rw [Lwgeom.record, Lwgeom.length_recordOf, Lwgeom.length_boxBytes hb, layout_prepareBbox]

theorem ptarrayPointSize_zero : ptarrayPointSize 0 = 16 := rfl

def longLine : Lwgeom :=
  .line 0 none 0 ⟨0, 2 ^ 26, List.replicate (2 ^ 30) 0, by decide,
    by rewrite [List.length_replicate, ptarrayPointSize_zero]; omega⟩

theorem length_longLine_layout : longLine.layout.length = 2 ^ 30 + 8 := by
  show (le32 lineType ++ le32 (2 ^ 26) ++ List.replicate (2 ^ 30) 0).length = _
  rewrite [List.length_append, List.length_append, length_le32, length_le32, List.length_replicate]
  omega

/-- `longLine`'s record is `2^30 + 16` bytes long and its size word says 16. -/
theorem longLine_sizeWord :
    ∃ r, gserializedFromLwgeom sampleSridLimits typedCollaborators longLine = .ok r ∧
      r.length = 2 ^ 30 + 16 ∧ gserializedSize r = .ok 16 := by
  obtain ⟨r, hr, hlen, hsize⟩ :=
    gserializedFromLwgeom_sizeWord sampleSridLimits typedCollaborators longLine rfl rfl rfl
  have hN : r.length = 2 ^ 30 + 16 := by
    rw [hlen, length_longLine_layout, show (prepareBbox typedCollaborators longLine).bbox = none from rfl]
    simp
  exact ⟨r, hr, hN, by rw [hsize, hN, show (2 ^ 30 + 16) % 2 ^ 30 = 16 by omega]⟩

/-- `2^31` points whose first ordinate is the double `2`: `2^35` bytes. -/
def wrappedArray : PointArray :=
  ⟨0, 2 ^ 31, le64 0x4000000000000000 ++ List.replicate (2 ^ 35 - 8) 0, by decide,
    by rewrite [List.length_append, length_le64, List.length_replicate, ptarrayPointSize_zero]; omega⟩

def wrappedLine : Lwgeom := .line 0 none 0 wrappedArray

/-- Under flags of two ordinates the line writer copies `2^35 % 2^32`, that is
no, bytes of `wrappedArray`, and the size calculator counts `2^31 * 2 % 2^32`,
that is no, doubles. -/
theorem wrappedArray_written {f : UInt8} (hf : flagsNdims f = 2) (b : Option Gbox) (s : Int) :
    gserializedFromLwgeomAny (.line f b s wrappedArray) = .ok (le32 lineType ++ le32 (2 ^ 31)) ∧
      gserializedFromAnySize (.line f b s wrappedArray) = .ok 8 := by
  have hz : flagsGetZ f = 0 := by unfold flagsNdims at hf; omega
  refine ⟨?_, by rw [gserializedFromAnySize, gserializedFromLwlineSize, ptarrayNodeSize, hf]; rfl⟩
  simp [gserializedFromLwgeomAny, gserializedFromLwline, wrappedArray, hz, ptarrayPointSize_zero,
    show flagsGetZ (0 : UInt8) = 0 by decide, -List.reduceReplicate]

theorem gserializedFromLwgeom_wrappedLine (L : SridLimits) (c : Collaborators)
    (hb : (prepareBbox c wrappedLine).boxMatches) :
    ∃ r, gserializedFromLwgeom L c wrappedLine = .ok r ∧
      r.length = 8 + (prepareBbox c wrappedLine).boxBytes.length + 8 ∧ gserializedSize r = .ok (r.length % 2 ^ 30) := by
  obtain ⟨b, hP⟩ := prepareBbox_eq c wrappedLine
  obtain ⟨hany, hsize⟩ := wrappedArray_written (f := flagsSetBbox 0 b.isSome) (by cases b.isSome <;> rfl) b 0
  exact ⟨_, gserializedFromLwgeom_eq_recordOf L hb (by rw [hP]; exact hany) (by rw [hP]; exact hsize),
    by rw [Lwgeom.length_recordOf]; rfl, gserializedSize_recordOf _ _ _⟩

theorem wrappedLine_layout : wrappedLine.layout = le32 lineType ++ le32 (2 ^ 31) ++
    (le64 0x4000000000000000 ++ List.replicate (2 ^ 35 - 8) 0) := rfl

theorem prepareBbox_policy_wrappedLine :
    ∃ box, prepareBbox policyCollaborators wrappedLine = .line (flagsSetBbox 0 true) (some box) 0 wrappedArray ∧
      box.flags = 0 := by
  obtain ⟨box, hbox⟩ := Option.isSome_iff_exists.mp (calculateGboxCartesian_isSome (g := wrappedLine) rfl rfl)
  have hcalc : policyCollaborators.calculateGbox = calculateGboxCartesian := rfl
  have hcond : (wrappedLine.bbox.isNone && policyCollaborators.needsBbox wrappedLine &&
      !policyCollaborators.isEmpty wrappedLine) = true := rfl
  refine ⟨box, ?_, calculateGboxCartesian_flags hbox⟩
  rw [prepareBbox, if_pos hcond, lwgeomAddBbox, hcalc, hbox]
  rfl

/-- `wrappedLine` is a valid tree whose layout spans `2^35 + 8` bytes. With
collaborators that store no box, `gserialized_from_lwgeom` returns a record of
16 bytes whose size word says 16; with collaborators that follow the box
policy, a record of 32 bytes whose size word says 32, where the header, the
box and the layout span `2^35 + 32`. The size calculator's
`npoints * FLAGS_NDIMS` and the writer's `npoints * ptsize` both wrap to zero. -/
theorem wrappedLine_recordShort (L : SridLimits) :
    wrappedLine.valid typedCollaborators.allowsSubtype ∧ 8 + wrappedLine.layout.length = 2 ^ 35 + 16 ∧
      (∃ r, gserializedFromLwgeom L typedCollaborators wrappedLine = .ok r ∧ r.length = 16 ∧
        gserializedSize r = .ok 16) ∧
    policyCollaborators.BoxPolicy ∧ wrappedLine.valid policyCollaborators.allowsSubtype ∧
      8 + (prepareBbox policyCollaborators wrappedLine).boxBytes.length + wrappedLine.layout.length = 2 ^ 35 + 32 ∧
      ∃ r, gserializedFromLwgeom L policyCollaborators wrappedLine = .ok r ∧ r.length = 32 ∧
        gserializedSize r = .ok 32 := by
  have hlayout : wrappedLine.layout.length = 2 ^ 35 + 8 := by
    rewrite [wrappedLine_layout, List.length_append, List.length_append, List.length_append, length_le32,
      length_le32, length_le64, List.length_replicate]
    omega
  obtain ⟨box, hprep, hflags⟩ := prepareBbox_policy_wrappedLine
  have hb : (prepareBbox policyCollaborators wrappedLine).boxMatches := by
    rw [hprep]; simp only [Lwgeom.boxMatches, Lwgeom.bbox, Lwgeom.flags, hflags]; decide
  have hbox : (prepareBbox policyCollaborators wrappedLine).boxBytes.length = 16 := by
    rw [Lwgeom.length_boxBytes hb, hprep]; simp only [Lwgeom.bbox, Lwgeom.flags, Option.isSome_some, if_true]; decide
  obtain ⟨r, hr, hlen, hsize⟩ := gserializedFromLwgeom_wrappedLine L typedCollaborators rfl
  obtain ⟨r', hr', hlen', hsize'⟩ := gserializedFromLwgeom_wrappedLine L policyCollaborators hb
  rw [show (prepareBbox typedCollaborators wrappedLine).boxBytes.length = 0 from rfl] at hlen
  rw [hbox] at hlen'
  exact ⟨rfl, by omega, ⟨r, hr, hlen, by rw [hsize, hlen]; rfl⟩, policyCollaborators_boxPolicy, rfl, by omega,
    r', hr', hlen', by rw [hsize', hlen']; rfl⟩

end GSerialized
