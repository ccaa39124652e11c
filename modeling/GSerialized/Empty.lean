import GSerialized.Codec

/-! `gserialized_is_empty`: a walk over the record's count words that never
builds the geometry. It takes each leaf's second word for its count, and ends a
collection's walk at the first child that is not empty. -/
namespace GSerialized

/-- The `int32_t` of four bytes. -/
def toInt32 (n : Nat) : Int := if n < 2 ^ 31 then n else n - 2 ^ 32

/-- A `memcpy` of four bytes at `off` into an `int32_t`. -/
def readInt32 (p : List UInt8) (off : Nat) : Except LwError Int :=
  match readU32 p off with
  | some n => .ok (toInt32 n)
  | none => .error (.readPastEnd off)

/-- The children loop of `gserialized_is_empty_recurse`: `k` more children from
`lz` on; a child that is not empty ends the walk. -/
def isEmptyChildren (recurse : Nat → Except LwError (Nat × Bool)) : Nat → Nat → Except LwError (Nat × Bool)
  | 0, lz => .ok (lz, true)
  | k + 1, lz => do
    let (size, isempty) ← recurse lz
    if !isempty then .ok (lz + size, false) else isEmptyChildren recurse k (lz + size)

/-- `gserialized_is_empty_recurse` at `off`: the bytes it stepped over and the
`isempty` it set. The fuel bounds the nesting. -/
def gserializedIsEmptyRecurse (p : List UInt8) : Nat → Nat → Except LwError (Nat × Bool)
  | 0, off => .error (.readPastEnd off)
  | fuel + 1, off => do
    let type ← readInt32 p off
    let num ← readInt32 p (off + 4)
    if lwtypeIsCollection type.toNat then
      isEmptyChildren (fun lz => gserializedIsEmptyRecurse p fuel (off + lz)) num.toNat 8
    else .ok (8, num = 0)

/-- `gserialized_is_empty`: the walk starts past the header and the box. -/
def gserializedIsEmpty (g : List UInt8) : Except LwError Bool := do
  let flags ← readU8 g 7
  let p := 8 + if flagsGetBbox flags = 1 then gboxSerializedSize flags else 0
  let (_, isempty) ← gserializedIsEmptyRecurse g g.length p
  return isempty

theorem toInt32_eq_zero {n : Nat} (hn : n < 2 ^ 32) : toInt32 n = 0 ↔ n = 0 := by
  unfold toInt32; split <;> omega

theorem toNat_toInt32 {n : Nat} (hn : n < 2 ^ 31) : (toInt32 n).toNat = n := by
  rw [toInt32, if_pos hn, Int.toNat_ofNat]

theorem readInt32_of_holdsAt {p : List UInt8} {off n : Nat} (h : HoldsAt p off (le32 n)) (hn : n < 2 ^ 32) :
    readInt32 p off = .ok (toInt32 n) := by
  rw [readInt32, readU32_of_holdsAt h hn]

namespace Lwgeom

/-- The node, if it is a leaf, has a zero count word: no point, or no ring. -/
def leafEmpty : Lwgeom → Bool
  | point _ _ _ pa | line _ _ _ pa | triangle _ _ _ pa | circString _ _ _ pa => pa.npoints = 0
  | polygon _ _ _ rs => rs.length = 0
  | collection .. => true

/-- Every leaf of the tree has a zero count word. -/
def countsEmpty : Lwgeom → Bool := all leafEmpty

/-- No point array of the tree, polygon rings included, holds a point. -/
def noCoordinates : Lwgeom → Bool := all fun n => n.pointArrays.all fun pa => pa.npoints = 0

/-- Every collection's count fits the walk's `int32_t`. -/
def numFits : Lwgeom → Bool := all fun n => n.geoms.length < 2 ^ 31

theorem numFits_setBbox (g : Lwgeom) (b : Option Gbox) : (g.setBbox b).numFits = g.numFits :=
  all_congr_root (geoms_setBbox g b) (by simp only [geoms_setBbox])

theorem numFits_setFlags (g : Lwgeom) (f : UInt8) : (g.setFlags f).numFits = g.numFits :=
  all_congr_root (geoms_setFlags g f) (by simp only [geoms_setFlags])

theorem countsEmpty_setBbox (g : Lwgeom) (b : Option Gbox) : (g.setBbox b).countsEmpty = g.countsEmpty :=
  all_congr_root (geoms_setBbox g b) (by cases g <;> rfl)

theorem countsEmpty_setFlags (g : Lwgeom) (f : UInt8) : (g.setFlags f).countsEmpty = g.countsEmpty :=
  all_congr_root (geoms_setFlags g f) (by cases g <;> rfl)

theorem numFits_setSrid (g : Lwgeom) (s : Int) : (g.setSrid s).numFits = g.numFits :=
  all_congr_root (geoms_setSrid g s) (by simp only [geoms_setSrid])

theorem numFits_setType (g : Lwgeom) (t : Nat) : (g.setType t).numFits = g.numFits :=
  all_congr_root (geoms_setType g t) (by simp only [geoms_setType])

theorem countsEmpty_setSrid (g : Lwgeom) (s : Int) : (g.setSrid s).countsEmpty = g.countsEmpty :=
  all_congr_root (geoms_setSrid g s) (by cases g <;> rfl)

theorem countsEmpty_setType (g : Lwgeom) (t : Nat) : (g.setType t).countsEmpty = g.countsEmpty :=
  all_congr_root (geoms_setType g t) (by cases g <;> rfl)

theorem countsEmpty_collection (t : Nat) (f : UInt8) (b : Option Gbox) (s : Int) (gs : List Lwgeom) :
    (collection t f b s gs).countsEmpty = gs.all countsEmpty := by
  rw [Bool.eq_iff_iff, countsEmpty, all_iff, List.all_eq_true]
  simp [leafEmpty, geoms, countsEmpty]

end Lwgeom

section
variable {p : List UInt8} {off fuel : Nat}

theorem gserializedIsEmptyRecurse_leaf {t n : Nat} {rest : List UInt8} (h : HoldsAt p off (le32 t ++ le32 n ++ rest))
    (ht : t < 16) (hc : lwtypeIsCollection t = false) (hn : n < 2 ^ 32) (hrest : n = 0 → rest = []) :
    ∃ size, gserializedIsEmptyRecurse p (fuel + 1) off = .ok (size, decide (n = 0)) ∧
      (decide (n = 0) → size = (le32 t ++ le32 n ++ rest).length) := by
  obtain ⟨h0, h4, -⟩ := holdsAt_words h
  refine ⟨8, ?_, fun h0 => by simp only [decide_eq_true_eq] at h0; simp [hrest h0, h0]⟩
  rw [gserializedIsEmptyRecurse, readInt32_of_holdsAt h0 (by omega), ok_bind, readInt32_of_holdsAt h4 hn, ok_bind,
    toNat_toInt32 (by omega), hc]
  simp [toInt32_eq_zero hn]

theorem isEmptyChildren_of_holdsAt (recurse : Nat → Except LwError (Nat × Bool)) (gs : List Lwgeom)
    (hc : ∀ c ∈ gs, ∀ lz, HoldsAt p (off + lz) c.layout →
      ∃ size, recurse lz = .ok (size, c.countsEmpty) ∧ (c.countsEmpty → size = c.layout.length))
    {lz : Nat} (h : HoldsAt p (off + lz) (Lwgeom.layout.layoutList gs)) :
    ∃ size, isEmptyChildren recurse gs.length lz = .ok (size, gs.all Lwgeom.countsEmpty) ∧
      (gs.all Lwgeom.countsEmpty → size = lz + (Lwgeom.layout.layoutList gs).length) := by
  induction gs generalizing lz with
  | nil => exact ⟨lz, rfl, fun _ => rfl⟩
  | cons c gs ih =>
    obtain ⟨h1, h2⟩ := holdsAt_append.mp h
    obtain ⟨size, hrec, hsize⟩ := hc c (List.mem_cons_self _ _) lz h1
    rw [List.length_cons, isEmptyChildren, hrec, ok_bind]
    cases hce : c.countsEmpty
    · exact ⟨lz + size, by simp [hce], by simp [hce]⟩
    · obtain rfl := hsize hce
      rw [Nat.add_assoc] at h2
      obtain ⟨size', hrest, hsize'⟩ := ih (fun c' hc' => hc c' (List.mem_cons_of_mem _ hc')) h2
      refine ⟨size', by simpa [hce] using hrest, fun hall => ?_⟩
      simp only [List.all_cons, hce, Bool.true_and] at hall
      simp [hsize' hall, Lwgeom.layout.layoutList, Nat.add_assoc]

/-- On the layout of a valid node whose collections fit the `int32_t` count,
the walk reports whether every leaf's count is zero, and when it is, steps
over exactly the node's layout. -/
theorem gserializedIsEmptyRecurse_of_holdsAt {A : Nat → Nat → Bool} (g : Lwgeom) (hv : g.valid A)
    (hn : g.numFits) (h : HoldsAt p off g.layout) (hfuel : g.layout.length ≤ 8 * (fuel + 1)) :
    ∃ size, gserializedIsEmptyRecurse p (fuel + 1) off = .ok (size, g.countsEmpty) ∧
      (g.countsEmpty → size = g.layout.length) := by
  have one := @List.mem_singleton_self PointArray
  induction g using Lwgeom.induction generalizing off fuel with
  | point f b s pa =>
    exact gserializedIsEmptyRecurse_leaf h (by decide) rfl pa.npoints_lt pa.serializedPointlist_eq_nil
  | line f b s pa =>
    exact gserializedIsEmptyRecurse_leaf h (by decide) rfl pa.npoints_lt pa.serializedPointlist_eq_nil
  | triangle f b s pa =>
    exact gserializedIsEmptyRecurse_leaf h (by decide) rfl pa.npoints_lt pa.serializedPointlist_eq_nil
  | circString f b s pa =>
    exact gserializedIsEmptyRecurse_leaf h (by decide) rfl pa.npoints_lt pa.serializedPointlist_eq_nil
  | polygon f b s rs =>
    have hfit := of_decide_eq_true (Bool.and_eq_true_iff.mp (Lwgeom.valid_node hv).2.2.2.2.2.1).2
    have h' : HoldsAt p off (le32 polygonType ++ le32 rs.length ++
        (polyRingTable rs ++ (rs.map PointArray.serializedPointlist).flatten)) := by
      simpa only [Lwgeom.layout, List.append_assoc] using h
    refine gserializedIsEmptyRecurse_leaf h' (by decide) rfl hfit fun h0 => ?_
    rw [List.length_eq_zero.mp h0]; rfl
  | collection t f b s gs ih =>
    obtain ⟨hk, -, -, -, -, -, hvc⟩ := Lwgeom.valid_node hv
    obtain ⟨ht, -⟩ := isCollectionType_spec hk
    have hlen : gs.length < 2 ^ 31 := of_decide_eq_true (Lwgeom.all_self hn)
    obtain ⟨h0, h4, hr⟩ := holdsAt_words h
    rw [gserializedIsEmptyRecurse, readInt32_of_holdsAt h0 (by omega), ok_bind,
      readInt32_of_holdsAt h4 (by omega), ok_bind, toNat_toInt32 (by omega), toNat_toInt32 hlen,
      lwtypeIsCollection, if_pos (show isCollectionType t = true from hk), Lwgeom.countsEmpty_collection]
    have hchild : ∀ c ∈ gs, ∀ lz, HoldsAt p (off + lz) c.layout → ∃ size,
        gserializedIsEmptyRecurse p fuel (off + lz) = .ok (size, c.countsEmpty) ∧
          (c.countsEmpty → size = c.layout.length) := fun c hc lz h' => by
      have hle := Lwgeom.layout_length_le hc
      simp only [Lwgeom.layout, List.length_append, length_le32] at hfuel
      obtain ⟨k, rfl⟩ := Nat.exists_eq_succ_of_ne_zero
        (show fuel ≠ 0 by have := c.layout_length_ge; omega)
      exact ih c hc (hvc c hc) (Lwgeom.all_child hn hc) h' (by omega)
    obtain ⟨size, hloop, hsize⟩ := isEmptyChildren_of_holdsAt _ gs hchild hr
    refine ⟨size, hloop, fun hall => ?_⟩
    rw [hsize hall, Lwgeom.layout]
    simp only [List.length_append, length_le32]

end

/-- On the record `gserialized_from_lwgeom` writes for a valid tree where
nothing wraps and every collection's count fits an `int32_t`,
`gserialized_is_empty` says whether every leaf's count word is zero: every
point, line, triangle and circular string without points, every polygon
without rings. Its walk steps over exactly the encoded bytes of every node
whose leaves all have zero counts. -/
theorem gserializedIsEmpty_gserializedFromLwgeom (L : SridLimits) (c : Collaborators) (g : Lwgeom)
    (hv : g.valid c.allowsSubtype) (hw : g.noWrap) (hb : (prepareBbox c g).boxMatches) (hn : g.numFits) :
    ∃ r, gserializedFromLwgeom L c g = .ok r ∧ gserializedIsEmpty r = .ok g.countsEmpty ∧
      ∀ n, g.IsNode n → n.countsEmpty → ∀ (p : List UInt8) (off fuel : Nat), HoldsAt p off n.layout →
        n.layout.length ≤ 8 * (fuel + 1) → gserializedIsEmptyRecurse p (fuel + 1) off = .ok (n.layout.length, true) := by
  have hv' : (prepareBbox c g).valid c.allowsSubtype := valid_prepareBbox hv
  obtain ⟨b, hp⟩ := prepareBbox_eq c g
  have hn' : (prepareBbox c g).numFits := by rw [hp, Lwgeom.numFits_setFlags, Lwgeom.numFits_setBbox, hn]
  have hce : (prepareBbox c g).countsEmpty = g.countsEmpty := by
    rw [hp, Lwgeom.countsEmpty_setFlags, Lwgeom.countsEmpty_setBbox]
  have hlay := Lwgeom.holdsAt_recordOf L (prepareBbox c g) (prepareBbox c g).layout
  have hhead : 8 + (if flagsGetBbox (prepareBbox c g).flags = 1 then gboxSerializedSize (prepareBbox c g).flags
      else 0) = 8 + (prepareBbox c g).boxBytes.length := by
    rw [Lwgeom.length_boxBytes hb, flagsGetBbox_prepareBbox]; split <;> simp
  obtain ⟨size, hwalk, -⟩ := gserializedIsEmptyRecurse_of_holdsAt _ hv' hn' hlay
    (show _ ≤ 8 * (7 + (prepareBbox c g).boxBytes.length + (prepareBbox c g).layout.length + 1) by omega)
  refine ⟨_, gserializedFromLwgeom_eq_record L hv (Lwgeom.runsFit_of_noWrap hw) hb, ?_, fun n hn0 hne p off fuel h hfuel => ?_⟩
  · rw [Lwgeom.record, gserializedIsEmpty, Lwgeom.readU8_recordOf_flags, ok_bind]
    dsimp only
    rw [hhead, Lwgeom.length_recordOf,
      show 8 + (prepareBbox c g).boxBytes.length + (prepareBbox c g).layout.length = 7 +
        (prepareBbox c g).boxBytes.length + (prepareBbox c g).layout.length + 1 by omega, hwalk, ok_bind, hce]
    rfl
  · obtain ⟨size, hwalk, hsize⟩ := gserializedIsEmptyRecurse_of_holdsAt n (Lwgeom.all_of_isNode hv hn0)
      (Lwgeom.all_of_isNode hn hn0) h hfuel
    rw [hwalk, hsize hne, hne]

def emptyPoint : Lwgeom := .point 0 none 0 ⟨0, 0, [], by decide, rfl⟩

/-- A GeometryCollection of eleven empty points: the eleventh child's type word
sits at byte 96 of its record. -/
def emptyPoints : Lwgeom := .collection collectionType 0 none 0 (List.replicate 11 emptyPoint)

theorem emptyPoints_walk :
    emptyPoints.valid plainCollaborators.allowsSubtype ∧ emptyPoints.noWrap ∧
      (prepareBbox plainCollaborators emptyPoints).boxMatches ∧ emptyPoints.numFits ∧
    ∃ r, gserializedFromLwgeom sampleSridLimits plainCollaborators emptyPoints = .ok r ∧
      gserializedIsEmpty r = .ok emptyPoints.countsEmpty ∧
      ∀ n, emptyPoints.IsNode n → n.countsEmpty → ∀ (p : List UInt8) (off fuel : Nat), HoldsAt p off n.layout →
        n.layout.length ≤ 8 * (fuel + 1) → gserializedIsEmptyRecurse p (fuel + 1) off = .ok (n.layout.length, true) :=
  ⟨rfl, rfl, rfl, rfl, gserializedIsEmpty_gserializedFromLwgeom _ _ _ rfl rfl rfl rfl⟩

def emptyRingPolygon : Lwgeom := .polygon 0 none 0 [⟨0, 0, [], by decide, rfl⟩]

/-- A polygon whose only ring has no point has no coordinate, but its ring
count is one, so its record is not empty. -/
theorem gserializedIsEmpty_emptyRingPolygon :
    emptyRingPolygon.valid plainCollaborators.allowsSubtype ∧ emptyRingPolygon.noCoordinates ∧
      ∃ r, gserializedFromLwgeom sampleSridLimits plainCollaborators emptyRingPolygon = .ok r ∧
        gserializedIsEmpty r = .ok false :=
  ⟨rfl, rfl, _, rfl, rfl⟩

end GSerialized
