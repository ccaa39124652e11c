import GSerialized.Peek
import GSerialized.Interleave

/-! `gserialized_cmp`, the order B-tree indexes sort records by: a fast path for
two box-free points, then emptiness, exact equality, a Morton hash of the box
centre, the box's corners and the bodies' bytes. A record is passed as the
memory from its first byte on: the fast path's type test reads past the end of
small records. -/
namespace GSerialized

/-- The double `0.5`: `/ 2.0` is the correctly rounded product by it. -/
def doubleHalf : UInt64 := 0x3FE0000000000000

/-- `gbox_get_sortable_hash`: the interleaved float images of the sums of the
box's extrema, or on the sphere of the longitude and latitude of its centre. -/
def gboxGetSortableHash (c : Collaborators) (g : Gbox) : UInt64 :=
  if flagsGetGeodetic g.flags = 1 then
    let (lon, lat) := c.centroidLonLat (doubleMul (doubleAdd g.xmax g.xmin) doubleHalf)
      (doubleMul (doubleAdd g.ymax g.ymin) doubleHalf) (doubleMul (doubleAdd g.zmax g.zmin) doubleHalf)
    uint32Interleave2 (doubleToFloat lon) (doubleToFloat lat)
  else uint32Interleave2 (doubleToFloat (doubleAdd g.xmax g.xmin)) (doubleToFloat (doubleAdd g.ymax g.ymin))

/-- `SIZE_GET(g->size)`. -/
def gserializedSize (g : List UInt8) : Except LwError Nat := do
  let size ← gserializedGetUint32T g 0
  return sizeGet size.toNat

/-- `memcmp` of two byte runs of one length: the difference of the first bytes
that differ, as `unsigned char`s, or 0; its callers read only the sign. -/
def memcmp : List UInt8 → List UInt8 → Int
  | a :: as, b :: bs => if a = b then memcmp as bs else (a.toNat : Int) - b.toNat
  | _, _ => 0

def readRun (g : List UInt8) (off len : Nat) : Except LwError (List UInt8) :=
  match readBytes g off len with
  | some bytes => .ok bytes
  | none => .error (.readPastEnd off)

/-- `gserialized_cmp_srid` on the three SRID bytes of each record. -/
def srids (g1 g2 : List UInt8) : Except LwError Nat := do
  let s1 ← readRun g1 4 3
  let s2 ← readRun g2 4 3
  return gserializedCmpSrid s1 s2

/-- `sizeof(GSERIALIZED)`, of the struct declared in `liblwgeom.h`, a header not
under `src/`: the `uint32_t` size word, three SRID bytes, the flags byte and the
one-byte `data` array, padded to the alignment of the size word. -/
def sizeofGserialized : Nat := 12

/-- The test of the fast path: both sizes above 16, no box, and the word at
`g + 8`, eight `GSERIALIZED`s past each record's start, equal to `POINTTYPE`. -/
def cmpFastPathTaken (g1 g2 : List UInt8) (sz1 sz2 : Nat) : Except LwError Bool :=
  if sz1 > 16 && sz2 > 16 then do
    let f1 ← readU8 g1 7
    let f2 ← readU8 g2 7
    if flagsGetBbox f1 = 0 && flagsGetBbox f2 = 0 then do
      let t1 ← gserializedGetUint32T g1 (8 * sizeofGserialized)
      if t1.toNat = pointType then do
        let t2 ← gserializedGetUint32T g2 (8 * sizeofGserialized)
        pure (t2.toNat = pointType)
      else pure false
    else pure false
  else pure false

/-- The hash of the fast path: the float images of `2.0 * dptr[0]` and
`2.0 * dptr[1]` for `dptr = (double*)(g->data + sizeof(double))`. -/
def cmpFastHash (g : List UInt8) : Except LwError UInt64 := do
  let x ← dataDouble g 1
  let y ← dataDouble g 2
  return uint32Interleave2 (doubleToFloat (doubleMul doubleTwo x)) (doubleToFloat (doubleMul doubleTwo y))

/-- The sign of a hash comparison, none on a tie. -/
def cmpHashes (hash1 hash2 : UInt64) : Option Int :=
  if hash1 > hash2 then some 1 else if hash1 < hash2 then some (-1) else none

/-- A tie-break on one box field, none when neither is below the other. -/
def cmpBoxField (a b : UInt64) : Option Int :=
  if doubleLt a b then some (-1) else if doubleLt b a then some 1 else none

/-- The hash of the box centres, then the minima and the maxima. -/
def cmpBoxes (c : Collaborators) (box1 box2 : Gbox) : Option Int :=
  cmpHashes (gboxGetSortableHash c box1) (gboxGetSortableHash c box2) <|>
    cmpBoxField box1.xmin box2.xmin <|> cmpBoxField box1.ymin box2.ymin <|>
    cmpBoxField box1.xmax box2.xmax <|> cmpBoxField box1.ymax box2.ymax

/-- The rest of `gserialized_cmp` after the fast path. Body sizes are `size_t`
differences. -/
def gserializedCmpSlow (c : Collaborators) (g1 g2 : List UInt8) (sz1 sz2 : Nat) : Except LwError Int := do
  let f1 ← readU8 g1 7
  let f2 ← readU8 g2 7
  let hsz1 := gserializedHeaderSize f1
  let hsz2 := gserializedHeaderSize f2
  let bsz1 := (sz1 + 2 ^ 64 - hsz1) % 2 ^ 64
  let bsz2 := (sz2 + 2 ^ 64 - hsz2) % 2 ^ 64
  let bsz := min bsz1 bsz2
  let cmpSrid ← srids g1 g2
  let box1 ← gserializedGetGboxP c g1 gboxInit
  let box2 ← gserializedGetGboxP c g2 gboxInit
  if box1.isNone && box2.isSome then pure (-1)
  else if box1.isSome && box2.isNone then pure 1
  else do
    let b1 ← readRun g1 hsz1 bsz
    let b2 ← readRun g2 hsz2 bsz
    let cmp := memcmp b1 b2
    if bsz1 = bsz2 && cmpSrid = 0 && cmp = 0 then pure 0
    else
      let boxOrder := match box1, box2 with
        | some box1, some box2 => cmpBoxes c box1 box2
        | _, _ => none
      match boxOrder with
      | some r => pure r
      | none =>
        if bsz1 ≠ bsz2 && cmp = 0 then pure (if bsz1 < bsz2 then -1 else 1)
        else pure (if cmp > 0 then 1 else -1)

def gserializedCmp (c : Collaborators) (g1 g2 : List UInt8) : Except LwError Int := do
  let sz1 ← gserializedSize g1
  let sz2 ← gserializedSize g2
  let fast ← cmpFastPathTaken g1 g2 sz1 sz2
  let early ← (if fast then do
      let hash1 ← cmpFastHash g1
      let hash2 ← cmpFastHash g2
      let cmpSrid ← srids g1 g2
      pure (if cmpSrid = 0 then cmpHashes hash1 hash2 else none)
    else pure none)
  match early with
  | some r => pure r
  | none => gserializedCmpSlow c g1 g2 sz1 sz2

/-- A record in memory, followed by zeros up to the word the fast path tests,
which holds `w`. -/
def inMemory (r : List UInt8) (w : Nat) : List UInt8 :=
  r ++ List.replicate (8 * sizeofGserialized - r.length) 0 ++ le32 w

def point2d (srid : Int) (x y : Nat) : Lwgeom :=
  .point 0 none srid ⟨0, 1, le64 x ++ le64 y, by decide, by rw [List.length_append, length_le64]; rfl⟩

/-- Two origin points that differ only in their SRIDs: their bodies are the
same bytes, and each record sorts before the other. -/
theorem gserializedCmp_sridTie :
    ∃ r1 r2, gserializedFromLwgeom sampleSridLimits plainCollaborators (point2d 1 0 0) = .ok r1 ∧
      gserializedFromLwgeom sampleSridLimits plainCollaborators (point2d 2 0 0) = .ok r2 ∧
      r1.drop 8 = r2.drop 8 ∧
      gserializedCmp plainCollaborators (inMemory r1 0) (inMemory r2 0) = .ok (-1) ∧
      gserializedCmp plainCollaborators (inMemory r2 0) (inMemory r1 0) = .ok (-1) :=
  ⟨_, _, rfl, rfl, rfl, rfl, rfl⟩

/-- The point `(1 + 2^-23, 1 - 7·2^-27)`: its y lies just above the float below
`1`, so `2y` rounds down to a float while its rounded-out box sums to `2`. -/
def offGridPoint : Lwgeom := point2d 0 0x3FF0000020000000 0x3FEFFFFFE4000000

def unitPoint : Lwgeom := point2d 0 0x3FF0000000000000 0x3FF0000000000000

/-- The segment from `(1, 1)` to `(1 + 2^-22, 1)`, whose box has the hash of
`offGridPoint`'s box and a smaller `xmin`. -/
def unitSegment : Lwgeom :=
  .line 0 none 0 ⟨0, 2, le64 0x3FF0000000000000 ++ le64 0x3FF0000000000000 ++ le64 0x3FF0000040000000 ++
    le64 0x3FF0000000000000, by decide, rfl⟩

set_option exponentiation.threshold 4096 in
/-- Three records of one SRID that `gserialized_cmp` orders in a cycle, when the
two points' records are followed in memory by a `POINTTYPE` word where the fast
path looks: the fast path puts `offGridPoint` first by the hash of `2x, 2y`,
the slow path puts it last by the hash of its rounded-out box. -/
theorem gserializedCmp_cycle :
    ∃ rp rq rr, gserializedFromLwgeom sampleSridLimits plainCollaborators offGridPoint = .ok rp ∧
      gserializedFromLwgeom sampleSridLimits plainCollaborators unitPoint = .ok rq ∧
      gserializedFromLwgeom sampleSridLimits plainCollaborators unitSegment = .ok rr ∧
      gserializedCmp plainCollaborators (inMemory rp pointType) (inMemory rq pointType) = .ok (-1) ∧
      gserializedCmp plainCollaborators (inMemory rq pointType) (inMemory rr 0) = .ok (-1) ∧
      gserializedCmp plainCollaborators (inMemory rp pointType) (inMemory rr 0) = .ok 1 :=
  ⟨_, _, _, rfl, rfl, rfl, rfl, rfl, rfl⟩

set_option exponentiation.threshold 4096 in
/-- The fast path is taken on two empty GeometryCollections, whose word at byte
96 is a child's type; and on two points it returns the opposite of what the
slow path returns for them. -/
theorem gserializedCmp_fastPath :
    (∃ r, gserializedFromLwgeom sampleSridLimits plainCollaborators emptyPoints = .ok r ∧
      gserializedSize r = .ok 104 ∧ cmpFastPathTaken r r 104 104 = .ok true) ∧
    ∃ rp rq, gserializedFromLwgeom sampleSridLimits plainCollaborators offGridPoint = .ok rp ∧
      gserializedFromLwgeom sampleSridLimits plainCollaborators unitPoint = .ok rq ∧
      cmpFastPathTaken (inMemory rp pointType) (inMemory rq pointType) 32 32 = .ok true ∧
      gserializedCmp plainCollaborators (inMemory rp pointType) (inMemory rq pointType) = .ok (-1) ∧
      gserializedCmpSlow plainCollaborators (inMemory rp pointType) (inMemory rq pointType) 32 32 = .ok 1 :=
  ⟨⟨_, rfl, rfl, rfl⟩, _, _, rfl, rfl, rfl, rfl, rfl⟩

/-! ### Laws of the order -/

theorem memcmp_swap : ∀ a b : List UInt8, memcmp b a = -memcmp a b
  | x :: xs, y :: ys => by
    by_cases h : x = y
    · subst h; rw [memcmp, memcmp, if_pos rfl, if_pos rfl, memcmp_swap xs ys]
    · rw [memcmp, memcmp, if_neg (Ne.symm h), if_neg h]; omega
  | [], [] | [], _ :: _ | _ :: _, [] => rfl

theorem eq_of_memcmp : ∀ {a b : List UInt8}, a.length = b.length → memcmp a b = 0 → a = b
  | [], [], _, _ => rfl
  | x :: xs, y :: ys, hl, h => by
    rw [memcmp] at h
    split at h
    · rename_i hxy
      rw [hxy, eq_of_memcmp (Nat.succ.inj hl) h]
    · rename_i hxy
      exact absurd (UInt8.toNat.inj (by omega)) hxy

theorem cmpHashes_swap (h1 h2 : UInt64) : cmpHashes h2 h1 = (cmpHashes h1 h2).map (-·) := by
  unfold cmpHashes
  by_cases h : h1 < h2
  · rw [if_pos (show h2 > h1 from h), if_neg (UInt64.lt_asymm h), if_pos h]; rfl
  · by_cases h' : h2 < h1
    · rw [if_neg (show ¬h2 > h1 from h), if_pos h', if_pos (show h1 > h2 from h')]; rfl
    · rw [if_neg (show ¬h2 > h1 from h), if_neg h', if_neg (show ¬h1 > h2 from h'), if_neg h]; rfl

theorem doubleLt_asymm {a b : UInt64} (h : doubleLt a b) : doubleLt b a = false := by
  simp only [doubleLt, Bool.and_eq_true, Bool.not_eq_true', decide_eq_true_eq] at h
  simp only [doubleLt, h.1.1, h.1.2, Bool.not_false, Bool.true_and, decide_eq_false_iff_not, not_lt]
  exact le_of_lt h.2

theorem cmpBoxField_swap (a b : UInt64) : cmpBoxField b a = (cmpBoxField a b).map (-·) := by
  unfold cmpBoxField
  cases hab : doubleLt a b
  · cases hba : doubleLt b a <;> rfl
  · rw [doubleLt_asymm hab]; rfl

theorem map_orElse {α β : Type} (f : α → β) (x y : Option α) : (x <|> y).map f = (x.map f <|> y.map f) := by
  cases x <;> rfl

theorem cmpBoxes_swap (c : Collaborators) (b1 b2 : Gbox) : cmpBoxes c b2 b1 = (cmpBoxes c b1 b2).map (-·) := by
  rw [cmpBoxes, cmpBoxes, cmpHashes_swap (gboxGetSortableHash c b1), cmpBoxField_swap b1.xmin,
    cmpBoxField_swap b1.ymin, cmpBoxField_swap b1.xmax, cmpBoxField_swap b1.ymax]
  simp only [map_orElse]

theorem orElse_some {α : Type} {P : α → Prop} {x y : Option α} (hx : ∀ r, x = some r → P r)
    (hy : ∀ r, y = some r → P r) : ∀ r, (x <|> y) = some r → P r := by
  cases x
  · exact hy
  · exact hx

theorem cmpHashes_some {x y : UInt64} : ∀ r, cmpHashes x y = some r → r = 1 ∨ r = -1 := fun r h => by
  unfold cmpHashes at h; split_ifs at h <;> cases h <;> simp

theorem cmpBoxField_some {x y : UInt64} : ∀ r, cmpBoxField x y = some r → r = 1 ∨ r = -1 := fun r h => by
  unfold cmpBoxField at h; split_ifs at h <;> cases h <;> simp

theorem cmpBoxes_some {c : Collaborators} {b1 b2 : Gbox} : ∀ r, cmpBoxes c b1 b2 = some r → r = 1 ∨ r = -1 :=
  orElse_some cmpHashes_some (orElse_some cmpBoxField_some (orElse_some cmpBoxField_some
    (orElse_some cmpBoxField_some cmpBoxField_some)))

theorem srids_ok {g1 g2 : List UInt8} {s : Nat} (h : srids g1 g2 = .ok s) :
    ∃ s1 s2, readRun g1 4 3 = .ok s1 ∧ readRun g2 4 3 = .ok s2 ∧ s = gserializedCmpSrid s1 s2 := by
  obtain ⟨s1, h1, h⟩ := bind_eq_ok h
  obtain ⟨s2, h2, h⟩ := bind_eq_ok h
  exact ⟨s1, s2, h1, h2, (Except.ok.inj h).symm⟩

theorem srids_swap {g1 g2 : List UInt8} {s : Nat} (h : srids g1 g2 = .ok s) : srids g2 g1 = .ok s := by
  obtain ⟨s1, s2, h1, h2, rfl⟩ := srids_ok h
  rw [srids, h2, ok_bind, h1, ok_bind]
  simp only [gserializedCmpSrid, eq_comm]; rfl

theorem cmpFastPathTaken_eq_true {g1 g2 : List UInt8} {sz1 sz2 : Nat} {x : Bool}
    (h : cmpFastPathTaken g1 g2 sz1 sz2 = .ok x) :
    x = true ↔ 16 < sz1 ∧ 16 < sz2 ∧
      (∃ f1 t1, readU8 g1 7 = .ok f1 ∧ flagsGetBbox f1 = 0 ∧
        gserializedGetUint32T g1 (8 * sizeofGserialized) = .ok t1 ∧ t1.toNat = pointType) ∧
      ∃ f2 t2, readU8 g2 7 = .ok f2 ∧ flagsGetBbox f2 = 0 ∧
        gserializedGetUint32T g2 (8 * sizeofGserialized) = .ok t2 ∧ t2.toNat = pointType := by
  unfold cmpFastPathTaken at h
  rcases ite_eq_iff.mp h with ⟨hsz, h⟩ | ⟨hsz, h⟩
  · simp only [Bool.and_eq_true, decide_eq_true_eq] at hsz
    obtain ⟨f1, hf1, h⟩ := bind_eq_ok h
    obtain ⟨f2, hf2, h⟩ := bind_eq_ok h
    rcases ite_eq_iff.mp h with ⟨hb, h⟩ | ⟨hb, h⟩
    · simp only [Bool.and_eq_true, decide_eq_true_eq] at hb
      obtain ⟨t1, ht1, h⟩ := bind_eq_ok h
      rcases ite_eq_iff.mp h with ⟨hp1, h⟩ | ⟨hp1, h⟩
      · obtain ⟨t2, ht2, h⟩ := bind_eq_ok h
        cases h
        refine ⟨fun hx => ⟨hsz.1, hsz.2, ⟨f1, t1, hf1, hb.1, ht1, hp1⟩, f2, t2, hf2, hb.2, ht2, of_decide_eq_true hx⟩,
          fun ⟨_, _, _, f2', t2', _, _, ht2', hp2⟩ => ?_⟩
        rw [ht2] at ht2'; cases ht2'; exact decide_eq_true hp2
      · cases h
        refine ⟨nofun, fun ⟨_, _, ⟨f1', t1', _, _, ht1', hp⟩, _⟩ => ?_⟩
        rw [ht1] at ht1'; cases ht1'; exact absurd hp hp1
    · cases h
      refine ⟨nofun, fun ⟨_, _, ⟨f1', _, hf1', hb1, _⟩, f2', _, hf2', hb2, _⟩ => ?_⟩
      rw [hf1] at hf1'; cases hf1'; rw [hf2] at hf2'; cases hf2'
      simp [hb1, hb2] at hb
  · cases h
    refine ⟨nofun, fun ⟨h1, h2, _⟩ => ?_⟩
    simp [h1, h2] at hsz

theorem cmpFastPathTaken_swap {g1 g2 : List UInt8} {sz1 sz2 : Nat} {x y : Bool}
    (h : cmpFastPathTaken g1 g2 sz1 sz2 = .ok x) (h' : cmpFastPathTaken g2 g1 sz2 sz1 = .ok y) : y = x := by
  rw [Bool.eq_iff_iff, cmpFastPathTaken_eq_true h', cmpFastPathTaken_eq_true h]
  exact ⟨fun ⟨a, b, c, d⟩ => ⟨b, a, d, c⟩, fun ⟨a, b, c, d⟩ => ⟨b, a, d, c⟩⟩

theorem length_of_readRun {g : List UInt8} {off len : Nat} {bs : List UInt8} (h : readRun g off len = .ok bs) :
    bs.length = len := by
  unfold readRun readBytes at h
  split at h
  · rename_i hr
    split at hr
    · cases hr; cases h; simp only [List.length_take, List.length_drop]; omega
    · cases hr
  · cases h

/-- The last steps of the slow path: equality, then the box order `o` when
there is one, then the shorter prefix, then the sign of `memcmp`. Swapping the
records negates the answer unless the two bodies tie on different SRIDs. -/
theorem cmpTail_swap {B1 B2 s : Nat} {m r r' : Int} {o : Option Int}
    (h : (if (decide (B1 = B2) && decide (s = 0) && decide (m = 0)) = true then pure 0
      else match o with
        | some k => pure k
        | none => if (decide (B1 ≠ B2) && decide (m = 0)) = true then pure (if B1 < B2 then -1 else 1)
          else pure (if m > 0 then 1 else -1) : Except LwError Int) = .ok r)
    (h' : (if (decide (B2 = B1) && decide (s = 0) && decide (-m = 0)) = true then pure 0
      else match o.map (-·) with
        | some k => pure k
        | none => if (decide (B2 ≠ B1) && decide (-m = 0)) = true then pure (if B2 < B1 then -1 else 1)
          else pure (if -m > 0 then 1 else -1) : Except LwError Int) = .ok r') :
    r' = -r ∨ r = -1 ∧ r' = -1 ∧ s ≠ 0 ∧ B1 = B2 ∧ m = 0 := by
  rcases o with _ | k
  case some =>
    simp only [Option.map_some', Bool.and_eq_true, decide_eq_true_eq, neg_eq_zero, eq_comm (a := B2)] at h h'
    left
    split_ifs at h h' <;> cases h <;> cases h' <;> rfl
  simp only [Option.map_none', Bool.and_eq_true, decide_eq_true_eq, neg_eq_zero, Left.neg_pos_iff,
    ← apply_ite pure] at h h'
  replace h := Except.ok.inj h
  replace h' := Except.ok.inj h'
  subst h h'
  rcases eq_or_ne m 0 with rfl | hm
  · by_cases hB : B1 = B2
    · subst hB
      by_cases hs : s = 0 <;> simp [hs]
    · left
      simp only [hB, Ne.symm hB, false_and, if_false, ne_eq, not_false_eq_true, and_self, if_true]
      split_ifs <;> omega
  · left
    simp only [hm, and_false, if_false]
    split_ifs <;> omega

theorem cmpTail_eq_zero {B1 B2 s : Nat} {m : Int} {o : Option Int}
    (h : (if (decide (B1 = B2) && decide (s = 0) && decide (m = 0)) = true then pure 0
      else match o with
        | some r => pure r
        | none => if (decide (B1 ≠ B2) && decide (m = 0)) = true then pure (if B1 < B2 then -1 else 1)
          else pure (if m > 0 then 1 else -1) : Except LwError Int) = .ok 0)
    (ho : ∀ r, o = some r → r = 1 ∨ r = -1) :
    B1 = B2 ∧ s = 0 ∧ m = 0 := by
  simp only [Bool.and_eq_true, decide_eq_true_eq] at h
  by_cases he : (B1 = B2 ∧ s = 0) ∧ m = 0
  · exact ⟨he.1.1, he.1.2, he.2⟩
  rw [if_neg he] at h
  rcases o with _ | r
  · split_ifs at h <;> cases h
  · rcases ho r rfl with rfl | rfl <;> cases h

/-- The bytes `gserialized_cmp` compares as a record's body: from the end of the
header on, `SIZE_GET(size)` less the header's length of them. -/
def cmpBody (g : List UInt8) : Except LwError (List UInt8) := do
  let sz ← gserializedSize g
  let f ← readU8 g 7
  readRun g (gserializedHeaderSize f) ((sz + 2 ^ 64 - gserializedHeaderSize f) % 2 ^ 64)

theorem cmpBody_eq {a b : List UInt8} {sz1 sz2 B1 B2 : Nat} {f1 f2 : UInt8} {b1 b2 : List UInt8}
    (hs1 : gserializedSize a = .ok sz1) (hs2 : gserializedSize b = .ok sz2) (hf1 : readU8 a 7 = .ok f1)
    (hf2 : readU8 b 7 = .ok f2) (hB1 : (sz1 + 2 ^ 64 - gserializedHeaderSize f1) % 2 ^ 64 = B1)
    (hB2 : (sz2 + 2 ^ 64 - gserializedHeaderSize f2) % 2 ^ 64 = B2) (hB : B1 = B2)
    (hr1 : readRun a (gserializedHeaderSize f1) (min B1 B2) = .ok b1)
    (hr2 : readRun b (gserializedHeaderSize f2) (min B1 B2) = .ok b2)
    (hm : memcmp b1 b2 = 0) : ∃ body, cmpBody a = .ok body ∧ cmpBody b = .ok body := by
  subst hB hB1
  rw [min_self] at hr1 hr2
  obtain rfl := eq_of_memcmp (by rw [length_of_readRun hr1, length_of_readRun hr2]) hm
  exact ⟨b1, by rw [cmpBody, hs1, ok_bind, hf1, ok_bind]; exact hr1,
    by rw [cmpBody, hs2, ok_bind, hf2, ok_bind, hB2]; exact hr2⟩

theorem srids_eq_zero {g1 g2 : List UInt8} {s : Nat} (h : srids g1 g2 = .ok s) :
    s = 0 ↔ readRun g1 4 3 = readRun g2 4 3 := by
  obtain ⟨s1, s2, h1, h2, rfl⟩ := srids_ok h
  rw [h1, h2, gserializedCmpSrid]
  constructor
  · intro h0; split at h0
    · rename_i he; rw [he]
    · cases h0
  · intro he; cases he; exact if_pos rfl

theorem gserializedCmpSlow_swap {c : Collaborators} {a b : List UInt8} {sz1 sz2 : Nat} {r r' : Int}
    (hs1 : gserializedSize a = .ok sz1) (hs2 : gserializedSize b = .ok sz2)
    (h : gserializedCmpSlow c a b sz1 sz2 = .ok r) (h' : gserializedCmpSlow c b a sz2 sz1 = .ok r') :
    r' = -r ∨ r = -1 ∧ r' = -1 ∧ readRun a 4 3 ≠ readRun b 4 3 ∧
      ∃ body, cmpBody a = .ok body ∧ cmpBody b = .ok body := by
  unfold gserializedCmpSlow at h h'
  obtain ⟨f1, hf1, h⟩ := bind_eq_ok h
  obtain ⟨f2, hf2, h⟩ := bind_eq_ok h
  obtain ⟨s, hs, h⟩ := bind_eq_ok h
  obtain ⟨box1, hb1, h⟩ := bind_eq_ok h
  obtain ⟨box2, hb2, h⟩ := bind_eq_ok h
  rw [hf2, ok_bind, hf1, ok_bind, srids_swap hs, ok_bind, hb2, ok_bind, hb1, ok_bind] at h'
  generalize hB1 : (sz1 + 2 ^ 64 - gserializedHeaderSize f1) % 2 ^ 64 = B1 at h h'
  generalize hB2 : (sz2 + 2 ^ 64 - gserializedHeaderSize f2) % 2 ^ 64 = B2 at h h'
  rw [min_comm B2 B1] at h'
  have tie : ∀ {b1 b2}, readRun a (gserializedHeaderSize f1) (min B1 B2) = .ok b1 →
      readRun b (gserializedHeaderSize f2) (min B1 B2) = .ok b2 →
      (r' = -r ∨ r = -1 ∧ r' = -1 ∧ s ≠ 0 ∧ B1 = B2 ∧ memcmp b1 b2 = 0) →
      r' = -r ∨ r = -1 ∧ r' = -1 ∧ readRun a 4 3 ≠ readRun b 4 3 ∧
        ∃ body, cmpBody a = .ok body ∧ cmpBody b = .ok body :=
    fun hr1 hr2 => Or.imp_right fun ⟨h1, h2, hs0, hB, hm⟩ =>
      ⟨h1, h2, fun he => hs0 ((srids_eq_zero hs).mpr he), cmpBody_eq hs1 hs2 hf1 hf2 hB1 hB2 hB hr1 hr2 hm⟩
  rcases box1 with _ | x <;> rcases box2 with _ | y <;>
    simp only [Option.isNone_none, Option.isSome_none, Option.isNone_some, Option.isSome_some, Bool.and_false,
      Bool.false_and, Bool.and_true, Bool.true_and, Bool.false_eq_true, if_true, if_false] at h h'
  · obtain ⟨b1, hr1, h⟩ := bind_eq_ok h
    obtain ⟨b2, hr2, h⟩ := bind_eq_ok h
    rw [hr2, ok_bind, hr1, ok_bind, memcmp_swap b1 b2] at h'
    exact tie hr1 hr2 (cmpTail_swap (o := none) h h')
  · cases h; cases h'; exact .inl rfl
  · cases h; cases h'; exact .inl rfl
  · obtain ⟨b1, hr1, h⟩ := bind_eq_ok h
    obtain ⟨b2, hr2, h⟩ := bind_eq_ok h
    rw [hr2, ok_bind, hr1, ok_bind, memcmp_swap b1 b2, cmpBoxes_swap c x y] at h'
    exact tie hr1 hr2 (cmpTail_swap h h')


/-- The slow path answers 0 only for the same SRID bytes and the same body. -/
theorem gserializedCmpSlow_eq_zero {c : Collaborators} {a b : List UInt8} {sz1 sz2 : Nat}
    (hs1 : gserializedSize a = .ok sz1) (hs2 : gserializedSize b = .ok sz2)
    (h : gserializedCmpSlow c a b sz1 sz2 = .ok 0) :
    readRun a 4 3 = readRun b 4 3 ∧ ∃ body, cmpBody a = .ok body ∧ cmpBody b = .ok body := by
  unfold gserializedCmpSlow at h
  obtain ⟨f1, hf1, h⟩ := bind_eq_ok h
  obtain ⟨f2, hf2, h⟩ := bind_eq_ok h
  obtain ⟨s, hs, h⟩ := bind_eq_ok h
  obtain ⟨box1, -, h⟩ := bind_eq_ok h
  obtain ⟨box2, -, h⟩ := bind_eq_ok h
  generalize hB1 : (sz1 + 2 ^ 64 - gserializedHeaderSize f1) % 2 ^ 64 = B1 at h
  generalize hB2 : (sz2 + 2 ^ 64 - gserializedHeaderSize f2) % 2 ^ 64 = B2 at h
  have tie : ∀ {b1 b2}, readRun a (gserializedHeaderSize f1) (min B1 B2) = .ok b1 →
      readRun b (gserializedHeaderSize f2) (min B1 B2) = .ok b2 → B1 = B2 ∧ s = 0 ∧ memcmp b1 b2 = 0 →
      readRun a 4 3 = readRun b 4 3 ∧ ∃ body, cmpBody a = .ok body ∧ cmpBody b = .ok body :=
    fun hr1 hr2 ⟨hB, hs0, hm⟩ => ⟨(srids_eq_zero hs).mp hs0, cmpBody_eq hs1 hs2 hf1 hf2 hB1 hB2 hB hr1 hr2 hm⟩
  rcases box1 with _ | x <;> rcases box2 with _ | y <;>
    simp only [Option.isNone_none, Option.isSome_none, Option.isNone_some, Option.isSome_some, Bool.and_false,
      Bool.false_and, Bool.and_true, Bool.true_and, Bool.false_eq_true, if_true, if_false] at h
  · obtain ⟨b1, hr1, h⟩ := bind_eq_ok h
    obtain ⟨b2, hr2, h⟩ := bind_eq_ok h
    exact tie hr1 hr2 (cmpTail_eq_zero (o := none) h fun _ h => by cases h)
  · cases h
  · cases h
  · obtain ⟨b1, hr1, h⟩ := bind_eq_ok h
    obtain ⟨b2, hr2, h⟩ := bind_eq_ok h
    exact tie hr1 hr2 (cmpTail_eq_zero h cmpBoxes_some)

theorem cmpEarly_some {g1 g2 : List UInt8} {fast : Bool} {e : Option Int}
    (h : (if fast then do
        let hash1 ← cmpFastHash g1
        let hash2 ← cmpFastHash g2
        let cmpSrid ← srids g1 g2
        pure (if cmpSrid = 0 then cmpHashes hash1 hash2 else none)
      else pure none : Except LwError (Option Int)) = .ok e) :
    ∀ r, e = some r → r = 1 ∨ r = -1 := by
  cases fast
  · cases h; exact fun _ h => nomatch h
  · rw [if_pos rfl] at h
    obtain ⟨hash1, -, h⟩ := bind_eq_ok h
    obtain ⟨hash2, -, h⟩ := bind_eq_ok h
    obtain ⟨s, -, h⟩ := bind_eq_ok h
    cases h
    split_ifs
    · exact cmpHashes_some
    · exact fun _ h => nomatch h

theorem cmpEarly_swap {g1 g2 : List UInt8} {fast : Bool} {e e' : Option Int}
    (h : (if fast then do
        let hash1 ← cmpFastHash g1
        let hash2 ← cmpFastHash g2
        let cmpSrid ← srids g1 g2
        pure (if cmpSrid = 0 then cmpHashes hash1 hash2 else none)
      else pure none : Except LwError (Option Int)) = .ok e)
    (h' : (if fast then do
        let hash1 ← cmpFastHash g2
        let hash2 ← cmpFastHash g1
        let cmpSrid ← srids g2 g1
        pure (if cmpSrid = 0 then cmpHashes hash1 hash2 else none)
      else pure none : Except LwError (Option Int)) = .ok e') :
    e' = e.map (-·) := by
  cases fast
  · cases h; cases h'; rfl
  · rw [if_pos rfl] at h h'
    obtain ⟨hash1, hh1, h⟩ := bind_eq_ok h
    obtain ⟨hash2, hh2, h⟩ := bind_eq_ok h
    obtain ⟨s, hs, h⟩ := bind_eq_ok h
    rw [hh2, ok_bind, hh1, ok_bind, srids_swap hs, ok_bind] at h'
    cases h; cases h'
    split_ifs
    · exact cmpHashes_swap hash1 hash2
    · rfl

theorem gserializedCmp_swap {c : Collaborators} {a b : List UInt8} {r r' : Int}
    (h : gserializedCmp c a b = .ok r) (h' : gserializedCmp c b a = .ok r') :
    r' = -r ∨ r = -1 ∧ r' = -1 ∧ readRun a 4 3 ≠ readRun b 4 3 ∧
      ∃ body, cmpBody a = .ok body ∧ cmpBody b = .ok body := by
  unfold gserializedCmp at h h'
  obtain ⟨sz1, hs1, h⟩ := bind_eq_ok h
  obtain ⟨sz2, hs2, h⟩ := bind_eq_ok h
  obtain ⟨fast, hfast, h⟩ := bind_eq_ok h
  obtain ⟨early, hearly, h⟩ := bind_eq_ok h
  rw [hs2, ok_bind, hs1, ok_bind] at h'
  obtain ⟨fast', hfast', h'⟩ := bind_eq_ok h'
  obtain rfl := cmpFastPathTaken_swap hfast hfast'
  obtain ⟨early', hearly', h'⟩ := bind_eq_ok h'
  obtain rfl := cmpEarly_swap hearly hearly'
  cases early with
  | some r0 => cases h; cases h'; exact .inl rfl
  | none => exact gserializedCmpSlow_swap hs1 hs2 h h'

theorem gserializedCmp_eq_zero {c : Collaborators} {a b : List UInt8} (h : gserializedCmp c a b = .ok 0) :
    readRun a 4 3 = readRun b 4 3 ∧ ∃ body, cmpBody a = .ok body ∧ cmpBody b = .ok body := by
  unfold gserializedCmp at h
  obtain ⟨sz1, hs1, h⟩ := bind_eq_ok h
  obtain ⟨sz2, hs2, h⟩ := bind_eq_ok h
  obtain ⟨fast, hfast, h⟩ := bind_eq_ok h
  obtain ⟨early, hearly, h⟩ := bind_eq_ok h
  cases early with
  | some r0 =>
    cases h
    rcases cmpEarly_some hearly 0 rfl with h | h <;> cases h
  | none => exact gserializedCmpSlow_eq_zero hs1 hs2 h

/-- The laws `gserialized_cmp` keeps over any two records in memory, whenever
both calls return: a record is equal to itself; it is equal to another only
when the two have the same three SRID bytes and the same body; and swapping
the two negates the answer, except on the same body under different SRIDs,
where each record sorts before the other. -/
theorem gserializedCmp_laws (c : Collaborators) (a b : List UInt8) :
    (∀ r, gserializedCmp c a a = .ok r → r = 0) ∧
      (gserializedCmp c a b = .ok 0 →
        readRun a 4 3 = readRun b 4 3 ∧ ∃ body, cmpBody a = .ok body ∧ cmpBody b = .ok body) ∧
      ∀ r r', gserializedCmp c a b = .ok r → gserializedCmp c b a = .ok r' →
        r' = -r ∨ r = -1 ∧ r' = -1 ∧ readRun a 4 3 ≠ readRun b 4 3 ∧
          ∃ body, cmpBody a = .ok body ∧ cmpBody b = .ok body := by
  refine ⟨fun r h => ?_, gserializedCmp_eq_zero, fun r r' => gserializedCmp_swap⟩
  rcases gserializedCmp_swap h h with h | ⟨-, -, hne, -⟩
  · omega
  · exact absurd rfl hne

theorem samplePoint_cmpLaws :
    ∃ r e, gserializedFromLwgeom sampleSridLimits plainCollaborators samplePoint = .ok r ∧
      gserializedFromLwgeom sampleSridLimits plainCollaborators emptyPoint = .ok e ∧
      gserializedCmp plainCollaborators (inMemory e 0) (inMemory r 0) = .ok (-1) ∧
      gserializedCmp plainCollaborators (inMemory r 0) (inMemory e 0) = .ok 1 ∧
      (∀ r', gserializedCmp plainCollaborators (inMemory e 0) (inMemory e 0) = .ok r' → r' = 0) ∧
      (gserializedCmp plainCollaborators (inMemory e 0) (inMemory r 0) = .ok 0 →
        readRun (inMemory e 0) 4 3 = readRun (inMemory r 0) 4 3 ∧
          ∃ body, cmpBody (inMemory e 0) = .ok body ∧ cmpBody (inMemory r 0) = .ok body) ∧
      ∀ r1 r2, gserializedCmp plainCollaborators (inMemory e 0) (inMemory r 0) = .ok r1 →
        gserializedCmp plainCollaborators (inMemory r 0) (inMemory e 0) = .ok r2 →
        r2 = -r1 ∨ r1 = -1 ∧ r2 = -1 ∧ readRun (inMemory e 0) 4 3 ≠ readRun (inMemory r 0) 4 3 ∧
          ∃ body, cmpBody (inMemory e 0) = .ok body ∧ cmpBody (inMemory r 0) = .ok body :=
  ⟨_, _, rfl, rfl, rfl, rfl, gserializedCmp_laws plainCollaborators _ _⟩

end GSerialized
