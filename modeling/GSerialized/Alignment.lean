import GSerialized.Header

/-! Alignment. In the record `gserialized_from_lwgeom` writes for a valid tree
every node's body and every ordinate run lies at the offset the writer computes
for it, a multiple of eight bytes from the record's start: the header and every
stored box are whole doubles, so is every node's body, and a polygon's count
table is padded to them. Whatever record it is given, the reader views point
arrays only at such offsets. -/
namespace GSerialized

/-! ### The writer -/

/-- The ordinate run the writer copies for a point array of a node with flags
`flags`: `npoints * ptsize` bytes, the product a `uint32_t`. -/
def writtenRun (flags : UInt8) (pa : PointArray) : List UInt8 :=
  pa.serializedPointlist.take (pa.npoints * ptarrayPointSize flags % 2 ^ 32)

theorem length_writtenRun_mod (flags : UInt8) (pa : PointArray) : (writtenRun flags pa).length % 8 = 0 := by
  rw [writtenRun, List.length_take, pa.length_eq, ptarrayPointSize, ptarrayPointSize, Nat.mul_left_comm,
    Nat.mul_left_comm pa.npoints]
  generalize pa.npoints * flagsNdims flags = a
  generalize pa.npoints * flagsNdims pa.flags = b
  omega

theorem leafRun_eq {f : UInt8} {pa : PointArray} (hzm : flagsGetZm pa.flags = flagsGetZm f) :
    (if pa.npoints > 0 then pa.serializedPointlist.take (pa.npoints * ptarrayPointSize pa.flags % 2 ^ 32)
      else []) = writtenRun f pa := by
  rw [writtenRun, ptarrayPointSize_eq_of_zm hzm]
  split
  · rfl
  · rw [show pa.npoints = 0 by omega, Nat.zero_mul, Nat.zero_mod, List.take_zero]

theorem pointRun_eq {f : UInt8} {pa : PointArray} (hzm : flagsGetZm pa.flags = flagsGetZm f)
    (h1 : pa.npoints ≤ 1) :
    (if pa.npoints > 0 then pa.serializedPointlist.take (ptarrayPointSize pa.flags) else []) =
      writtenRun f pa := by
  rw [← leafRun_eq hzm]
  have := flagsNdims_le pa.flags
  split
  · rw [show pa.npoints = 1 by omega, Nat.one_mul, Nat.mod_eq_of_lt (by rw [ptarrayPointSize]; omega)]
  · rfl

theorem length_flatten_writtenRun_mod (f : UInt8) :
    ∀ rs : List PointArray, ((rs.map (writtenRun f)).flatten).length % 8 = 0
  | [] => rfl
  | q :: rs => by
    rw [List.map_cons, List.flatten_cons, List.length_append]
    have := length_writtenRun_mod f q
    have := length_flatten_writtenRun_mod f rs
    omega

theorem ordinates_eq_flatten {f : UInt8} :
    ∀ {rs : List PointArray} {ords : List UInt8}, gserializedFromLwpoly.ordinates f rs = .ok ords →
      ords = (rs.map (writtenRun f)).flatten
  | [], _, h => by cases h; rfl
  | ring :: rs, ords, h => by
    rw [gserializedFromLwpoly.ordinates] at h
    split at h
    · cases h
    · obtain ⟨rest, hrest, rfl⟩ := map_eq_ok h
      rw [ordinates_eq_flatten hrest]
      rfl

namespace Lwgeom

/-- The length of the body the writer writes for a node: two words, a
polygon's count table, the runs it copies, a collection's children's bodies. -/
def writtenLength : Lwgeom → Nat
  | point f _ _ pa | line f _ _ pa | triangle f _ _ pa | circString f _ _ pa => 8 + (writtenRun f pa).length
  | polygon f _ _ rs => 8 + (polyRingTable rs).length + ((rs.map (writtenRun f)).flatten).length
  | collection _ _ _ _ gs => 8 + writtenLengthList gs
where writtenLengthList : List Lwgeom → Nat
  | [] => 0
  | g :: gs => writtenLength g + writtenLengthList gs

/-- Where the writer puts the runs of a node whose body starts at `o`: a
one-array node's run past its two words, a polygon's rings one after another
past its count table. -/
def runOffsets (o : Nat) : Lwgeom → List (List UInt8 × Nat)
  | point f _ _ pa | line f _ _ pa | triangle f _ _ pa | circString f _ _ pa => [(writtenRun f pa, o + 8)]
  | polygon f _ _ rs => ringOffsets f (o + 8 + (polyRingTable rs).length) rs
  | collection .. => []
where ringOffsets (f : UInt8) (o : Nat) : List PointArray → List (List UInt8 × Nat)
  | [] => []
  | r :: rs => (writtenRun f r, o) :: ringOffsets f (o + (writtenRun f r).length) rs

/-- Where the writer puts every node of a tree whose body starts at `o`: a
collection's children one after another past its two words. -/
def bodyOffsets (o : Nat) : Lwgeom → List (Lwgeom × Nat)
  | g@(collection _ _ _ _ gs) => (g, o) :: childOffsets (o + 8) gs
  | g => [(g, o)]
where childOffsets (o : Nat) : List Lwgeom → List (Lwgeom × Nat)
  | [] => []
  | g :: gs => bodyOffsets o g ++ childOffsets (o + writtenLength g) gs

theorem ringOffsets_of_mem {f : UInt8} {pa : PointArray} :
    ∀ {rs : List PointArray} {o : Nat}, pa ∈ rs → ∃ k, (writtenRun f pa, k) ∈ runOffsets.ringOffsets f o rs
  | r :: rs, o, h => by
    rw [runOffsets.ringOffsets]
    rcases List.mem_cons.mp h with rfl | h
    · exact ⟨o, List.mem_cons_self _ _⟩
    · obtain ⟨k, hk⟩ := ringOffsets_of_mem (o := o + (writtenRun f r).length) h
      exact ⟨k, List.mem_cons_of_mem _ hk⟩

theorem runOffsets_of_mem {g : Lwgeom} {pa : PointArray} (h : pa ∈ g.pointArrays) (o : Nat) :
    ∃ k, (writtenRun g.flags pa, k) ∈ g.runOffsets o := by
  cases g with
  | polygon f b s rs => exact ringOffsets_of_mem h
  | collection => cases h
  | _ => exact ⟨o + 8, by rw [List.mem_singleton.mp h]; exact List.mem_singleton_self _⟩

theorem childOffsets_of_mem {c : Lwgeom} :
    ∀ {gs : List Lwgeom} {p : Nat}, c ∈ gs → ∃ q, ∀ x ∈ c.bodyOffsets q, x ∈ bodyOffsets.childOffsets p gs
  | g :: gs, p, h => by
    rw [bodyOffsets.childOffsets]
    rcases List.mem_cons.mp h with rfl | h
    · exact ⟨p, fun x hx => List.mem_append_left _ hx⟩
    · obtain ⟨q, hq⟩ := childOffsets_of_mem (p := p + g.writtenLength) h
      exact ⟨q, fun x hx => List.mem_append_right _ (hq x hx)⟩

theorem self_mem_bodyOffsets (g : Lwgeom) (o : Nat) : (g, o) ∈ g.bodyOffsets o := by
  cases g <;> simp [bodyOffsets]

theorem mem_bodyOffsets_of_isNode {g n : Lwgeom} (hn : IsNode g n) (o : Nat) : ∃ k, (n, k) ∈ g.bodyOffsets o := by
  induction hn generalizing o with
  | refl g => exact ⟨o, self_mem_bodyOffsets g o⟩
  | @child g c n hc _ ih =>
    cases g with
    | collection t f b s gs =>
      obtain ⟨q, hq⟩ := childOffsets_of_mem (p := o + 8) hc
      obtain ⟨k, hk⟩ := ih q
      exact ⟨k, List.mem_cons_of_mem _ (hq _ hk)⟩
    | _ => cases hc

theorem isNode_of_mem_childOffsets {gs : List Lwgeom} {n : Lwgeom} {k : Nat}
    (ih : ∀ c ∈ gs, ∀ {o}, (n, k) ∈ c.bodyOffsets o → IsNode c n) :
    ∀ {gs' : List Lwgeom} {p : Nat}, (∀ c ∈ gs', c ∈ gs) → (n, k) ∈ bodyOffsets.childOffsets p gs' →
      ∃ c ∈ gs, IsNode c n
  | g :: gs', p, hsub, h => by
    rw [bodyOffsets.childOffsets, List.mem_append] at h
    rcases h with h | h
    · exact ⟨g, hsub g (List.mem_cons_self _ _), ih g (hsub g (List.mem_cons_self _ _)) h⟩
    · exact isNode_of_mem_childOffsets ih (fun c hc => hsub c (List.mem_cons_of_mem _ hc)) h

theorem isNode_of_mem_bodyOffsets {g n : Lwgeom} {o k : Nat} (h : (n, k) ∈ g.bodyOffsets o) : IsNode g n := by
  induction g using Lwgeom.induction generalizing o with
  | collection t f b s gs ih =>
    rcases List.mem_cons.mp h with h | h
    · rw [(Prod.mk.inj h).1]; exact .refl _
    · obtain ⟨c, hc, hn⟩ := isNode_of_mem_childOffsets (fun c hc _ h => ih c hc h) (fun c hc => hc) h
      exact .child hc hn
  | _ => rw [(Prod.mk.inj (List.mem_singleton.mp h)).1]; exact .refl _

end Lwgeom

/-- The body the writer writes for `n` lies at `o` in `r`, a multiple of eight
bytes from its start, and is whole doubles; each of its runs lies at the
offset the writer computes for it, also a multiple of eight. -/
def PlacedAt (r : List UInt8) (n : Lwgeom) (o : Nat) : Prop :=
  o % 8 = 0 ∧ (∃ wb, gserializedFromLwgeomAny n = .ok wb ∧ HoldsAt r o wb ∧ wb.length % 8 = 0) ∧
    ∀ x k, (x, k) ∈ n.runOffsets o → k % 8 = 0 ∧ HoldsAt r k x

theorem ringOffsets_placed {r : List UInt8} {f : UInt8} :
    ∀ (rs : List PointArray) {p : Nat}, p % 8 = 0 → HoldsAt r p (rs.map (writtenRun f)).flatten →
      ∀ x k, (x, k) ∈ Lwgeom.runOffsets.ringOffsets f p rs → k % 8 = 0 ∧ HoldsAt r k x
  | [], _, _, _, _, _, h => absurd h (List.not_mem_nil _)
  | q :: rs, p, hp, h, x, k, hx => by
    rw [List.map_cons, List.flatten_cons] at h
    obtain ⟨hq, hrs⟩ := holdsAt_append.mp h
    rw [Lwgeom.runOffsets.ringOffsets] at hx
    rcases List.mem_cons.mp hx with hx | hx
    · obtain ⟨rfl, rfl⟩ := Prod.mk.inj hx
      exact ⟨hp, hq⟩
    · exact ringOffsets_placed rs (by have := length_writtenRun_mod f q; omega) hrs x k hx

theorem leaf_placed {g : Lwgeom} {t : Nat} {f : UInt8} {pa : PointArray}
    (hw : gserializedFromLwgeomAny g = .ok (le32 t ++ le32 pa.npoints ++ writtenRun f pa))
    (hlen : g.writtenLength = 8 + (writtenRun f pa).length) (hruns : ∀ o, g.runOffsets o = [(writtenRun f pa, o + 8)])
    (hnodes : ∀ o, g.bodyOffsets o = [(g, o)]) :
    (le32 t ++ le32 pa.npoints ++ writtenRun f pa).length = g.writtenLength ∧
      (le32 t ++ le32 pa.npoints ++ writtenRun f pa).length % 8 = 0 ∧
      ∀ {r o}, o % 8 = 0 → HoldsAt r o (le32 t ++ le32 pa.npoints ++ writtenRun f pa) →
        ∀ n k, (n, k) ∈ g.bodyOffsets o → PlacedAt r n k := by
  have hl : (le32 t ++ le32 pa.npoints ++ writtenRun f pa).length = 8 + (writtenRun f pa).length := by
    simp only [List.length_append, length_le32]
  have h8 := length_writtenRun_mod f pa
  refine ⟨hl.trans hlen.symm, by omega, fun ho hr n k hn => ?_⟩
  obtain ⟨rfl, rfl⟩ := Prod.mk.inj (List.mem_singleton.mp (hnodes _ ▸ hn))
  refine ⟨ho, ⟨_, hw, hr, by omega⟩, fun x j hx => ?_⟩
  obtain ⟨rfl, rfl⟩ := Prod.mk.inj (List.mem_singleton.mp (hruns _ ▸ hx))
  exact ⟨by omega, (holdsAt_words hr).2.2⟩

theorem subgeoms_placed {f : UInt8} :
    ∀ {gs : List Lwgeom} {sub : List UInt8},
      (∀ c ∈ gs, ∀ wc, gserializedFromLwgeomAny c = .ok wc → wc.length = c.writtenLength ∧ wc.length % 8 = 0 ∧
        ∀ {r o}, o % 8 = 0 → HoldsAt r o wc → ∀ n k, (n, k) ∈ c.bodyOffsets o → PlacedAt r n k) →
      gserializedFromLwgeomAny.subgeoms f gs = .ok sub →
      sub.length = Lwgeom.writtenLength.writtenLengthList gs ∧ sub.length % 8 = 0 ∧
        ∀ {r p}, p % 8 = 0 → HoldsAt r p sub →
          ∀ n k, (n, k) ∈ Lwgeom.bodyOffsets.childOffsets p gs → PlacedAt r n k
  | [], _, _, h => by cases h; exact ⟨rfl, rfl, fun _ _ _ _ hn => absurd hn (List.not_mem_nil _)⟩
  | c :: gs, sub, hgs, h => by
    rw [gserializedFromLwgeomAny.subgeoms] at h
    split at h
    · cases h
    obtain ⟨wc, hwc, h⟩ := bind_eq_ok h
    obtain ⟨rest, hrest, h⟩ := bind_eq_ok h
    cases h
    obtain ⟨hl, hl8, hpc⟩ := hgs c (List.mem_cons_self c gs) wc hwc
    obtain ⟨hlr, hlr8, hpr⟩ := subgeoms_placed (fun c' hc' => hgs c' (List.mem_cons_of_mem c hc')) hrest
    refine ⟨by rw [List.length_append, hl, hlr]; rfl, by rw [List.length_append]; omega, fun hp hr n k hn => ?_⟩
    obtain ⟨h1, h2⟩ := holdsAt_append.mp hr
    rw [Lwgeom.bodyOffsets.childOffsets, List.mem_append] at hn
    rcases hn with hn | hn
    · exact hpc hp h1 n k hn
    · rw [← hl] at hn
      exact hpr (by omega) h2 n k hn

/-- What the writer lays out for a valid node: a body of the node's written
length, whole doubles, and, when it lies at a multiple of eight, every node
below it and every run of those nodes where the writer computes them. -/
theorem gserializedFromLwgeomAny_placed {A : Nat → Nat → Bool} (g : Lwgeom) (hv : g.valid A)
    {wb : List UInt8} (h : gserializedFromLwgeomAny g = .ok wb) :
    wb.length = g.writtenLength ∧ wb.length % 8 = 0 ∧
      ∀ {r o}, o % 8 = 0 → HoldsAt r o wb → ∀ n k, (n, k) ∈ g.bodyOffsets o → PlacedAt r n k := by
  obtain ⟨-, -, hzm, -, h1, -, hcv⟩ := Lwgeom.valid_node hv
  induction g using Lwgeom.induction generalizing wb with
  | point f b s pa =>
    have hz := hzm pa (List.mem_singleton_self pa)
    have hw := h
    rw [gserializedFromLwgeomAny, gserializedFromLwpoint, if_neg (by simpa [Lwgeom.flags] using hz.symm),
      pointRun_eq hz (by simpa [Lwgeom.pointAtMostOne] using h1)] at h
    cases h
    exact leaf_placed hw rfl (fun _ => rfl) (fun _ => rfl)
  | line f b s pa =>
    have hz := hzm pa (List.mem_singleton_self pa)
    have hw := h
    rw [gserializedFromLwgeomAny, gserializedFromLwline,
      if_neg (by rw [(zm_eq_iff.mp hz).1]; exact not_not_intro rfl), leafRun_eq hz] at h
    cases h
    exact leaf_placed hw rfl (fun _ => rfl) (fun _ => rfl)
  | triangle f b s pa | circString f b s pa =>
    have hz := hzm pa (List.mem_singleton_self pa)
    have hw := h
    simp only [gserializedFromLwgeomAny, gserializedFromLwtriangle, gserializedFromLwcircstring,
      gserializedFromPointList] at h
    rw [if_neg (by simpa [Lwgeom.flags] using hz.symm), leafRun_eq hz] at h
    cases h
    exact leaf_placed hw rfl (fun _ => rfl) (fun _ => rfl)
  | polygon f b s rs =>
    have hw := h
    obtain ⟨ords, hords, rfl⟩ := map_eq_ok h
    rw [ordinates_eq_flatten hords] at hw ⊢
    have hruns := length_flatten_writtenRun_mod f rs
    have hpre : (le32 polygonType ++ le32 rs.length ++ polyRingTable rs).length =
        8 + (polyRingTable rs).length := by simp only [List.length_append, length_le32]
    have htable : (8 + (polyRingTable rs).length) % 8 = 0 := by rw [length_polyRingTable]; split <;> omega
    refine ⟨by rw [List.length_append, hpre]; rfl, by rw [List.length_append]; omega, fun ho hr n k hn => ?_⟩
    obtain ⟨rfl, rfl⟩ := Prod.mk.inj (List.mem_singleton.mp hn)
    refine ⟨ho, ⟨_, hw, hr, by rw [List.length_append]; omega⟩, ?_⟩
    have hflat := (holdsAt_append.mp hr).2
    rw [hpre] at hflat
    exact ringOffsets_placed rs (by omega) (by rwa [← Nat.add_assoc] at hflat)
  | collection t f b s gs ih =>
    have hw := h
    simp only [gserializedFromLwgeomAny] at h
    split at h
    · obtain ⟨sub, hsub, rfl⟩ := map_eq_ok h
      obtain ⟨hl, hl8, hpc⟩ := subgeoms_placed (fun c hc wc hwc =>
        have ⟨_, _, hzm', _, h1', _, hcv'⟩ := Lwgeom.valid_node (hcv c hc)
        ih c hc (hcv c hc) hwc hzm' h1' hcv') hsub
      have hlen : (le32 t ++ le32 gs.length ++ sub).length = 8 + sub.length := by
        simp only [List.length_append, length_le32]
      refine ⟨by rw [hlen, hl]; rfl, by omega, fun ho hr n k hn => ?_⟩
      rcases List.mem_cons.mp hn with hn | hn
      · obtain ⟨rfl, rfl⟩ := Prod.mk.inj hn
        exact ⟨ho, ⟨_, hw, hr, by omega⟩, fun x j hx => absurd hx (List.not_mem_nil _)⟩
      · have hsubAt := (holdsAt_append.mp hr).2
        simp only [List.length_append, length_le32] at hsubAt
        exact hpc (by omega) hsubAt n k hn
    · cases h

/-! ### The reader -/

/-- Every point array of every node of `t` is bytes of `buf` that start a
multiple of eight bytes in. The model's arrays are the bytes they view, so this
says where a view of any record can lie; on a record the writer wrote, the
reader started at a node's offset reads that node. -/
def ViewsAligned (buf : List UInt8) (t : Lwgeom) : Prop :=
  ∀ n, Lwgeom.IsNode t n → ∀ pa ∈ n.pointArrays, ∃ o, o % 8 = 0 ∧ HoldsAt buf o pa.serializedPointlist

theorem Lwgeom.IsNode.eq_of_geoms_nil {t n : Lwgeom} (hn : Lwgeom.IsNode t n) (h : t.geoms = []) : n = t := by
  cases hn with
  | refl => rfl
  | child hc _ => rw [h] at hc; cases hc

theorem viewsAligned_leaf {buf : List UInt8} {t : Lwgeom} (h : t.geoms = [])
    (hpa : ∀ pa ∈ t.pointArrays, ∃ o, o % 8 = 0 ∧ HoldsAt buf o pa.serializedPointlist) : ViewsAligned buf t :=
  fun _ hn => (hn.eq_of_geoms_nil h) ▸ hpa

theorem viewsAligned_collection {buf : List UInt8} {type : Nat} {f : UInt8} {b : Option Gbox} {s : Int}
    {gs : List Lwgeom} (h : ∀ c ∈ gs, ViewsAligned buf c) : ViewsAligned buf (.collection type f b s gs) := by
  intro n hn pa hpa
  cases hn with
  | refl => cases hpa
  | child hc hn' => exact h _ hc n hn' pa hpa

theorem ViewsAligned.congr_root {buf : List UInt8} {t t' : Lwgeom} (hp : t'.pointArrays = t.pointArrays)
    (hg : t'.geoms = t.geoms) (h : ViewsAligned buf t) : ViewsAligned buf t' := by
  intro n hn pa hpa
  cases hn with
  | refl => exact h t (.refl t) pa (hp ▸ hpa)
  | child hc hn' => exact h n (.child (hg ▸ hc) hn') pa hpa

theorem holdsAt_of_ptarrayConstructReferenceData {buf : List UInt8} {hasz hasm : Nat} {npoints : UInt32}
    {off : Nat} {pa : PointArray} (h : ptarrayConstructReferenceData buf hasz hasm npoints off = .ok pa) :
    HoldsAt buf off pa.serializedPointlist := by
  unfold ptarrayConstructReferenceData at h
  split at h
  · cases h; exact ⟨by omega, List.take_prefix _ _⟩
  · cases h

theorem view_or_empty {buf : List UInt8} {off hasz hasm : Nat} {n : UInt32} {p : Prop} [Decidable p]
    {pa : PointArray} (ho : off % 8 = 0)
    (h : (if p then ptarrayConstructReferenceData buf hasz hasm n (off + 8)
      else pure (ptarrayConstructEmpty hasz hasm)) = .ok pa) :
    ∃ o, o % 8 = 0 ∧ HoldsAt buf o pa.serializedPointlist := by
  split at h
  · exact ⟨off + 8, by omega, holdsAt_of_ptarrayConstructReferenceData h⟩
  · cases h; exact ⟨0, rfl, Nat.zero_le _, List.nil_prefix⟩

theorem lwpointFromGserializedBuffer_aligned {buf : List UInt8} {off : Nat} {f : UInt8} {t : Lwgeom}
    {size : Nat} (ho : off % 8 = 0) (h : lwpointFromGserializedBuffer buf off f = .ok (t, size)) :
    size % 8 = 0 ∧ ViewsAligned buf t := by
  obtain ⟨npoints, -, h⟩ := bind_eq_ok h
  obtain ⟨pa, hpa, h⟩ := bind_eq_ok h
  cases h
  exact ⟨by omega, viewsAligned_leaf rfl fun q hq => List.mem_singleton.mp hq ▸ view_or_empty ho hpa⟩

theorem pointListFromGserializedBuffer_aligned {mk : UInt8 → Option Gbox → Int → PointArray → Lwgeom}
    (hmk : ∀ f b s pa, (mk f b s pa).geoms = [] ∧ (mk f b s pa).pointArrays = [pa])
    {buf : List UInt8} {off : Nat} {f : UInt8} {t : Lwgeom} {size : Nat} (ho : off % 8 = 0)
    (h : pointListFromGserializedBuffer mk buf off f = .ok (t, size)) : size % 8 = 0 ∧ ViewsAligned buf t := by
  obtain ⟨npoints, -, h⟩ := bind_eq_ok h
  obtain ⟨pa, hpa, h⟩ := bind_eq_ok h
  cases h
  refine ⟨by omega, viewsAligned_leaf (hmk _ _ _ _).1 fun q hq => ?_⟩
  rw [(hmk _ _ _ _).2, List.mem_singleton.mp hq] at *
  exact view_or_empty ho hpa

theorem lwpolyRings_aligned {buf : List UInt8} {f : UInt8} :
    ∀ {k dptr optr : Nat} {rings : List PointArray} {optr' : Nat}, optr % 8 = 0 →
      lwpolyRings buf f k dptr optr = .ok (rings, optr') →
      optr ≤ optr' ∧ optr' % 8 = 0 ∧ ∀ pa ∈ rings, ∃ o, o % 8 = 0 ∧ HoldsAt buf o pa.serializedPointlist
  | 0, _, _, _, _, ho, h => by cases h; exact ⟨Nat.le_refl _, ho, fun pa hpa => absurd hpa (List.not_mem_nil pa)⟩
  | k + 1, dptr, optr, rings, optr', ho, h => by
    rw [lwpolyRings] at h
    obtain ⟨npoints, -, h⟩ := bind_eq_ok h
    obtain ⟨ring, hring, h⟩ := bind_eq_ok h
    obtain ⟨⟨rest, optr''⟩, hrest, h⟩ := bind_eq_ok h
    cases h
    have h8 : 8 * flagsNdims f * npoints.toNat % 8 = 0 := by rw [Nat.mul_assoc]; exact Nat.mul_mod_right 8 _
    obtain ⟨hle, ho', hrs⟩ := lwpolyRings_aligned (by omega) hrest
    refine ⟨by omega, ho', fun pa hpa => ?_⟩
    rcases List.mem_cons.mp hpa with rfl | hpa
    · exact ⟨optr, ho, holdsAt_of_ptarrayConstructReferenceData hring⟩
    · exact hrs pa hpa

theorem lwpolyOrdinateStart_mod {off : Nat} (nrings : Nat) (ho : off % 8 = 0) :
    off + 8 ≤ lwpolyOrdinateStart off nrings ∧ lwpolyOrdinateStart off nrings % 8 = 0 := by
  unfold lwpolyOrdinateStart
  split
  · split <;> omega
  · omega

theorem lwpolyFromGserializedBuffer_aligned {buf : List UInt8} {off : Nat} {f : UInt8} {t : Lwgeom}
    {size : Nat} (ho : off % 8 = 0) (h : lwpolyFromGserializedBuffer buf off f = .ok (t, size)) :
    size % 8 = 0 ∧ ViewsAligned buf t := by
  obtain ⟨nrings, -, h⟩ := bind_eq_ok h
  obtain ⟨⟨rings, optr⟩, hrings, h⟩ := bind_eq_ok h
  cases h
  obtain ⟨hstart, hs8⟩ := lwpolyOrdinateStart_mod nrings.toNat ho
  obtain ⟨hle, ho', hrs⟩ := lwpolyRings_aligned hs8 hrings
  exact ⟨by omega, viewsAligned_leaf rfl hrs⟩

theorem lwcollectionChildren_aligned {A : Nat → Nat → Bool} {buf : List UInt8} {type : UInt32}
    {decode : Nat → Except LwError (Lwgeom × Nat)}
    (hdec : ∀ {off t size}, off % 8 = 0 → decode off = .ok (t, size) → size % 8 = 0 ∧ ViewsAligned buf t) :
    ∀ {k dptr : Nat} {geoms : List Lwgeom} {dptr' : Nat}, dptr % 8 = 0 →
      lwcollectionChildren A buf type decode k dptr = .ok (geoms, dptr') →
      dptr ≤ dptr' ∧ dptr' % 8 = 0 ∧ ∀ c ∈ geoms, ViewsAligned buf c
  | 0, _, _, _, ho, h => by cases h; exact ⟨Nat.le_refl _, ho, fun c hc => absurd hc (List.not_mem_nil c)⟩
  | k + 1, dptr, geoms, dptr', ho, h => by
    rw [lwcollectionChildren] at h
    obtain ⟨subtype, -, h⟩ := bind_eq_ok h
    split at h
    · cases h
    obtain ⟨_, -, h⟩ := bind_eq_ok h
    obtain ⟨⟨geom, subsize⟩, hgeom, h⟩ := bind_eq_ok h
    obtain ⟨⟨rest, dptr''⟩, hrest, h⟩ := bind_eq_ok h
    cases h
    obtain ⟨hs, hv⟩ := hdec ho hgeom
    obtain ⟨hle, ho', hcs⟩ := lwcollectionChildren_aligned hdec (by omega) hrest
    refine ⟨by omega, ho', fun c hc => ?_⟩
    rcases List.mem_cons.mp hc with rfl | hc
    · exact hv
    · exact hcs c hc

/-- What a read of a node can be: the dispatch on its type word picks one
reader, and an unknown type fails. -/
theorem lwgeomFromGserializedBuffer_cases {A : Nat → Nat → Bool} {buf : List UInt8} {fuel off : Nat} {f : UInt8}
    {r : Lwgeom × Nat} (h : lwgeomFromGserializedBuffer A buf (fuel + 1) off f = .ok r) :
    ∃ w, gserializedGetUint32T buf off = .ok w ∧
      (w.toNat = pointType ∧ lwpointFromGserializedBuffer buf off f = .ok r ∨
        w.toNat = lineType ∧ lwlineFromGserializedBuffer buf off f = .ok r ∨
        w.toNat = circStringType ∧ lwcircstringFromGserializedBuffer buf off f = .ok r ∨
        w.toNat = polygonType ∧ lwpolyFromGserializedBuffer buf off f = .ok r ∨
        w.toNat = triangleType ∧ lwtriangleFromGserializedBuffer buf off f = .ok r ∨
        isCollectionType w.toNat ∧
          lwcollectionFromGserializedBuffer A buf (lwgeomFromGserializedBuffer A buf fuel) off f = .ok r) := by
  rw [lwgeomFromGserializedBuffer] at h
  obtain ⟨type, hw, h⟩ := bind_eq_ok h
  refine ⟨type, hw, ?_⟩
  rcases ite_eq_iff.mp h with h | ⟨-, h⟩
  · exact .inl h
  rcases ite_eq_iff.mp h with h | ⟨-, h⟩
  · exact .inr (.inl h)
  rcases ite_eq_iff.mp h with h | ⟨-, h⟩
  · exact .inr (.inr (.inl h))
  rcases ite_eq_iff.mp h with h | ⟨-, h⟩
  · exact .inr (.inr (.inr (.inl h)))
  rcases ite_eq_iff.mp h with h | ⟨-, h⟩
  · exact .inr (.inr (.inr (.inr (.inl h))))
  rcases ite_eq_iff.mp h with h | ⟨-, ⟨⟩⟩
  exact .inr (.inr (.inr (.inr (.inr h))))

/-- Whatever buffer it reads, the reader started at a multiple of eight views
every point array at a multiple of eight and spans whole doubles. -/
theorem lwgeomFromGserializedBuffer_aligned {A : Nat → Nat → Bool} {buf : List UInt8} :
    ∀ {fuel off : Nat} {f : UInt8} {t : Lwgeom} {size : Nat}, off % 8 = 0 →
      lwgeomFromGserializedBuffer A buf fuel off f = .ok (t, size) → size % 8 = 0 ∧ ViewsAligned buf t
  | 0, _, _, _, _, _, h => by cases h
  | fuel + 1, off, f, t, size, ho, h => by
    obtain ⟨-, -, ⟨-, h⟩ | ⟨-, h⟩ | ⟨-, h⟩ | ⟨-, h⟩ | ⟨-, h⟩ | ⟨-, h⟩⟩ := lwgeomFromGserializedBuffer_cases h
    · exact lwpointFromGserializedBuffer_aligned ho h
    · exact pointListFromGserializedBuffer_aligned (by exact fun _ _ _ _ => ⟨rfl, rfl⟩) ho h
    · exact pointListFromGserializedBuffer_aligned (by exact fun _ _ _ _ => ⟨rfl, rfl⟩) ho h
    · exact lwpolyFromGserializedBuffer_aligned ho h
    · exact pointListFromGserializedBuffer_aligned (by exact fun _ _ _ _ => ⟨rfl, rfl⟩) ho h
    · obtain ⟨ty, -, h⟩ := bind_eq_ok h
      obtain ⟨ngeoms, -, h⟩ := bind_eq_ok h
      obtain ⟨⟨geoms, dptr⟩, hch, h⟩ := bind_eq_ok h
      cases h
      obtain ⟨hle, hd, hcs⟩ := lwcollectionChildren_aligned (fun ho h => lwgeomFromGserializedBuffer_aligned ho h)
        (show (off + 8) % 8 = 0 by omega) hch
      exact ⟨by omega, viewsAligned_collection hcs⟩

theorem gserializedHeaderSize_mod (flags : UInt8) : gserializedHeaderSize flags % 8 = 0 := by
  have := flagsGetZ_le_one flags; have := flagsGetM_le_one flags
  unfold gserializedHeaderSize gboxSerializedSize flagsNdims
  split_ifs <;> omega

theorem lwgeomFromGserialized_aligned {c : Collaborators} {R : List UInt8} {t : Lwgeom}
    (h : lwgeomFromGserialized c R = .ok t) : ViewsAligned R t := by
  rw [lwgeomFromGserialized] at h
  obtain ⟨_, -, h⟩ := bind_eq_ok h
  obtain ⟨_, -, h⟩ := bind_eq_ok h
  obtain ⟨_, -, h⟩ := bind_eq_ok h
  obtain ⟨gFlags, -, h⟩ := bind_eq_ok h
  obtain ⟨gType, -, h⟩ := bind_eq_ok h
  obtain ⟨⟨lwgeom, _⟩, hdec, h⟩ := bind_eq_ok h
  obtain ⟨box, -, h⟩ := bind_eq_ok h
  cases h
  exact (lwgeomFromGserializedBuffer_aligned (gserializedHeaderSize_mod gFlags) hdec).2.congr_root
    (by simp) (by simp)

/-! ### The record -/

/-- In the record `gserialized_from_lwgeom` writes for a valid tree, every node of
the prepared tree has its body at the offset the writer computes for it, a
multiple of eight bytes from the record's start, and of a length that is a
multiple of eight; every ordinate run the writers copy (each point array and
each polygon ring) lies at the offset the writer computes for it, also a
multiple of eight. The reader, given that record, builds only aligned views,
and when no `uint32_t` product wraps, the reader started at a node's offset
reads that node back. -/
theorem gserializedFromLwgeom_aligned (L : SridLimits) (c : Collaborators) (g : Lwgeom)
    (hv : g.valid c.allowsSubtype) (r : List UInt8) (hr : gserializedFromLwgeom L c g = .ok r) :
    (∀ n o, (n, o) ∈ (prepareBbox c g).bodyOffsets (8 + (prepareBbox c g).boxBytes.length) → PlacedAt r n o) ∧
      (∀ n, Lwgeom.IsNode (prepareBbox c g) n →
        ∃ o, (n, o) ∈ (prepareBbox c g).bodyOffsets (8 + (prepareBbox c g).boxBytes.length) ∧
          ∀ pa ∈ n.pointArrays, ∃ k, (writtenRun n.flags pa, k) ∈ n.runOffsets o) ∧
      (∀ t, lwgeomFromGserialized c r = .ok t → ViewsAligned r t) ∧
      (g.noWrap → ∀ n o, (n, o) ∈ (prepareBbox c g).bodyOffsets (8 + (prepareBbox c g).boxBytes.length) →
        ∀ (f : UInt8) (fuel : Nat), flagsGetZm n.flags = flagsGetZm f → n.layout.length ≤ 8 * (fuel + 1) →
          lwgeomFromGserializedBuffer c.allowsSubtype r (fuel + 1) o f = .ok (n.decoded f, n.layout.length)) := by
  obtain ⟨body, hbody, -, rfl⟩ := gserializedFromLwgeom_ok hr
  have hbox := (prepareBbox c g).length_boxBytes_mod
  have hplaced := (gserializedFromLwgeomAny_placed _ (valid_prepareBbox hv) hbody).2.2 (by omega)
    ((prepareBbox c g).holdsAt_recordOf L body)
  refine ⟨hplaced, fun n hn => ?_, fun t ht => lwgeomFromGserialized_aligned ht, fun hw n o hn f fuel hzm hfuel => ?_⟩
  · obtain ⟨o, ho⟩ := Lwgeom.mem_bodyOffsets_of_isNode hn (8 + (prepareBbox c g).boxBytes.length)
    exact ⟨o, ho, fun pa hpa => Lwgeom.runOffsets_of_mem hpa o⟩
  · -- a node of a tree where nothing wraps is written as its layout
    have hnode := Lwgeom.isNode_of_mem_bodyOffsets hn
    have hvn := Lwgeom.all_of_isNode (valid_prepareBbox hv) hnode
    have hwn := Lwgeom.all_of_isNode (noWrap_prepareBbox hw) hnode
    obtain ⟨-, ⟨wb, hwb, hat, -⟩, -⟩ := hplaced n o hn
    rw [gserializedFromLwgeomAny_eq_layout n hvn (Lwgeom.runsFit_of_noWrap hwn)] at hwb
    cases hwb
    exact lwgeomFromGserializedBuffer_of_holdsAt n hvn hwn hat hzm hfuel

/-- A collection of a polygon of three one-point rings (an odd ring count, so
the count table is padded) and a boxed point. -/
def ringedCollection : Lwgeom :=
  .collection collectionType 0 none 0 [.polygon 0 none 0 [originArray, originArray, originArray], boxedPoint]

theorem ringedCollection_aligned :
    ringedCollection.valid typedCollaborators.allowsSubtype ∧
      ∃ r, gserializedFromLwgeom sampleSridLimits typedCollaborators ringedCollection = .ok r ∧
        (∀ n o, (n, o) ∈ (prepareBbox typedCollaborators ringedCollection).bodyOffsets
          (8 + (prepareBbox typedCollaborators ringedCollection).boxBytes.length) → PlacedAt r n o) ∧
        (∀ n, Lwgeom.IsNode (prepareBbox typedCollaborators ringedCollection) n →
          ∃ o, (n, o) ∈ (prepareBbox typedCollaborators ringedCollection).bodyOffsets
            (8 + (prepareBbox typedCollaborators ringedCollection).boxBytes.length) ∧
            ∀ pa ∈ n.pointArrays, ∃ k, (writtenRun n.flags pa, k) ∈ n.runOffsets o) ∧
        (∀ t, lwgeomFromGserialized typedCollaborators r = .ok t → ViewsAligned r t) ∧
        (ringedCollection.noWrap → ∀ n o, (n, o) ∈ (prepareBbox typedCollaborators ringedCollection).bodyOffsets
            (8 + (prepareBbox typedCollaborators ringedCollection).boxBytes.length) →
          ∀ (f : UInt8) (fuel : Nat), flagsGetZm n.flags = flagsGetZm f → n.layout.length ≤ 8 * (fuel + 1) →
            lwgeomFromGserializedBuffer typedCollaborators.allowsSubtype r (fuel + 1) o f =
              .ok (n.decoded f, n.layout.length)) :=
  ⟨rfl, _, rfl, gserializedFromLwgeom_aligned sampleSridLimits typedCollaborators ringedCollection rfl _ rfl⟩

end GSerialized
