import GSerialized.Bytes

/-! `lwmessage_truncate`, which cuts a message down to `maxlength` characters
around a window of it and marks the cut with `...`. A C string is held as its
bytes without the terminating NUL; a pointer into it as an offset. The window
is `str[startpos..endpos]`; the result goes into `maxlength + 4` bytes. The
arguments are `int`s, and so is every sum and difference of them: one that
leaves the range of an `int` is an overflow C leaves undefined, and so is a
pointer moved outside the string. The model returns `none` for both. -/
namespace GSerialized

/-- An `int` passed where a `size_t` is expected. -/
def sizeT (n : Int) : Nat := (n % 2 ^ 64).toNat

/-- The value of an `int` expression, or `none` when it overflows. -/
def cInt (n : Int) : Option Int := if -2 ^ 31 ≤ n ∧ n < 2 ^ 31 then some n else none

/-- `p + d` on a pointer into `str`, while it stays within the string or on its NUL. -/
def ptrAdd (str : List UInt8) (p d : Int) : Option Int :=
  if 0 ≤ p + d ∧ p + d ≤ str.length then some (p + d) else none

/-- `strncat(dest, src, n)`: at most `n` bytes of `src`, up to its NUL, after `dest`. -/
def strncat (dest src : List UInt8) (n : Nat) : List UInt8 := dest ++ src.take n

def ellipsis : List UInt8 := [46, 46, 46]

/-- `lwmessage_truncate(str, startpos, endpos, maxlength, truncdirection)`: the
size it allocates and the string it leaves there. -/
def lwmessageTruncate (str : List UInt8) (startpos endpos maxlength truncdirection : Int) :
    Option (Nat × List UInt8) := do
  let size ← cInt (maxlength + 4)
  let output : List UInt8 := []
  let output ← if truncdirection = 0 then do
      let span ← cInt (endpos - startpos)
      if span < maxlength then do
        let outstart ← ptrAdd str 0 startpos
        let n ← cInt (span + 1)
        pure (strncat output (str.drop outstart.toNat) (sizeT n))
      else if maxlength ≥ 3 then do
        let outstart ← ptrAdd str 0 endpos
        let outstart ← ptrAdd str outstart 1
        let outstart ← ptrAdd str outstart (-maxlength)
        let outstart ← ptrAdd str outstart 3
        let n ← cInt (maxlength - 3)
        pure (strncat (strncat output ellipsis 4) (str.drop outstart.toNat) (sizeT n))
      else pure (strncat output ellipsis 4)
    else pure output
  let output ← if truncdirection = 1 then do
      let span ← cInt (endpos - startpos)
      if span < maxlength then do
        let outstart ← ptrAdd str 0 startpos
        let n ← cInt (span + 1)
        pure (strncat output (str.drop outstart.toNat) (sizeT n))
      else if maxlength ≥ 3 then do
        let outstart ← ptrAdd str 0 startpos
        let n ← cInt (maxlength - 3)
        pure (strncat (strncat output (str.drop outstart.toNat) (sizeT n)) ellipsis 4)
      else pure (strncat output ellipsis 4)
    else pure output
  pure (sizeT size, output)

/-- What `lwmessage_truncate` is for, on the window it is given: the window
itself when it has at most `maxlength` characters; otherwise `...` and its
last `maxlength - 3` characters (truncation at the start), or its first
`maxlength - 3` characters and `...` (at the end), or `...` alone when
`maxlength` is below three. Other directions give the empty string. -/
def truncateSpec (window : List UInt8) (maxlength : Nat) (truncdirection : Int) : List UInt8 :=
  if truncdirection = 0 ∨ truncdirection = 1 then
    if window.length ≤ maxlength then window
    else if 3 ≤ maxlength then
      if truncdirection = 0 then ellipsis ++ window.drop (window.length - (maxlength - 3))
      else window.take (maxlength - 3) ++ ellipsis
    else ellipsis
  else []

/-- The truncated message and its NUL fit the `maxlength + 4` bytes allocated. -/
theorem truncateSpec_length (window : List UInt8) (maxlength : Nat) (truncdirection : Int) :
    (truncateSpec window maxlength truncdirection).length ≤ maxlength + 3 := by
  unfold truncateSpec
  split_ifs <;> (try simp only [List.length_append, List.length_drop, List.length_take, ellipsis,
    List.length_cons, List.length_nil]) <;> omega

theorem sizeT_of_lt {n : Int} (h0 : 0 ≤ n) (h : n < 2 ^ 64) : sizeT n = n.toNat := by
  rw [sizeT, Int.emod_eq_of_lt h0 h]

theorem sizeT_of_int {n : Int} (h0 : 0 ≤ n) (h : n ≤ 2 ^ 31) : sizeT n = n.toNat :=
  sizeT_of_lt h0 (by omega)

theorem cInt_of_range {n : Int} (h0 : -2 ^ 31 ≤ n) (h : n < 2 ^ 31) : cInt n = some n := by
  rw [cInt, if_pos ⟨h0, h⟩]

theorem ptrAdd_of_le {str : List UInt8} {p d : Int} (h0 : 0 ≤ p + d) (h : p + d ≤ str.length) :
    ptrAdd str p d = some (p + d) := by
  rw [ptrAdd, if_pos ⟨h0, h⟩]

section
variable {str : List UInt8} {startpos endpos maxlength : Int}

/-- On a window inside the string, with `endpos + 1` and `maxlength + 4` within
an `int` and a `maxlength` of zero or more, `lwmessage_truncate` allocates
`maxlength + 4` bytes and leaves in them what `truncateSpec` says of the window,
which fits them with its NUL. -/
theorem lwmessageTruncate_eq_spec (truncdirection : Int) (hs : 0 ≤ startpos) (hse : startpos ≤ endpos + 1)
    (he : endpos < str.length) (he' : endpos + 1 < 2 ^ 31) (hm : 0 ≤ maxlength) (hm' : maxlength + 4 < 2 ^ 31) :
    ∃ size out, lwmessageTruncate str startpos endpos maxlength truncdirection = some (size, out) ∧
      size = maxlength.toNat + 4 ∧
      out = truncateSpec ((str.drop startpos.toNat).take (endpos + 1 - startpos).toNat) maxlength.toNat
        truncdirection ∧ out.length + 1 ≤ size := by
  set window := (str.drop startpos.toNat).take (endpos + 1 - startpos).toNat with hw
  have hwl : window.length = (endpos + 1 - startpos).toNat := by
    rw [hw, List.length_take, List.length_drop]; omega
  suffices h : lwmessageTruncate str startpos endpos maxlength truncdirection =
      some (maxlength.toNat + 4, truncateSpec window maxlength.toNat truncdirection) from
    ⟨_, _, h, rfl, rfl, by have := truncateSpec_length window maxlength.toNat truncdirection; omega⟩
  have hsize : sizeT (maxlength + 4) = maxlength.toNat + 4 := by rw [sizeT_of_int (by omega) (by omega)]; omega
  have hspan := cInt_of_range (by omega : -2 ^ 31 ≤ endpos - startpos) (by omega)
  have hcount := cInt_of_range (by omega : -2 ^ 31 ≤ endpos - startpos + 1) (by omega)
  have hstart : ptrAdd str 0 startpos = some startpos := by rw [ptrAdd_of_le (by omega) (by omega), Int.zero_add]
  have hwhole : strncat [] (str.drop startpos.toNat) (sizeT (endpos - startpos + 1)) = window := by
    rw [strncat, List.nil_append, sizeT_of_int (by omega) (by omega), hw]; congr 2; omega
  unfold lwmessageTruncate truncateSpec
  rw [cInt_of_range (by omega) hm']
  by_cases hd : truncdirection = 0 ∨ truncdirection = 1
  swap
  · simp only [Option.bind_eq_bind, Option.some_bind, if_neg (show truncdirection ≠ 0 by omega),
      if_neg (show truncdirection ≠ 1 by omega), if_neg hd, Option.pure_def, hsize]
  rw [if_pos hd]
  by_cases hlt : endpos - startpos < maxlength
  case pos =>
    rw [if_pos (by omega : window.length ≤ maxlength.toNat)]
    rcases hd with rfl | rfl <;> simp only [↓reduceIte, Int.one_ne_zero, Int.zero_ne_one, hlt, hspan, hstart,
      hcount, Option.pure_def, Option.bind_eq_bind, Option.some_bind, hwhole, hsize]
  rw [if_neg (by omega : ¬window.length ≤ maxlength.toNat)]
  by_cases h3 : maxlength ≥ 3
  case neg =>
    rw [if_neg (by omega : ¬3 ≤ maxlength.toNat)]
    rcases hd with rfl | rfl <;> simp only [↓reduceIte, Int.one_ne_zero, Int.zero_ne_one, hlt, h3, hspan,
      Option.pure_def, Option.bind_eq_bind, Option.some_bind, hsize] <;> rfl
  have hcut : sizeT (maxlength - 3) = (maxlength - 3).toNat := sizeT_of_int (by omega) (by omega)
  have hthree := cInt_of_range (by omega : -2 ^ 31 ≤ maxlength - 3) (by omega)
  rw [if_pos (by omega : 3 ≤ maxlength.toNat)]
  rcases hd with rfl | rfl
  · -- truncation at the start: `...`, then the window's last `maxlength - 3` bytes
    simp only [↓reduceIte, Int.zero_ne_one, hlt, h3, hspan, hthree, hcut, hsize, Option.pure_def,
      Option.bind_eq_bind, Option.some_bind, ptrAdd_of_le (by omega : 0 ≤ 0 + endpos) (by omega : 0 + endpos ≤ str.length),
      ptrAdd_of_le (by omega : 0 ≤ 0 + endpos + 1) (by omega : 0 + endpos + 1 ≤ str.length),
      ptrAdd_of_le (by omega : 0 ≤ 0 + endpos + 1 + -maxlength) (by omega : 0 + endpos + 1 + -maxlength ≤ str.length),
      ptrAdd_of_le (by omega : 0 ≤ 0 + endpos + 1 + -maxlength + 3)
        (by omega : 0 + endpos + 1 + -maxlength + 3 ≤ str.length),
      strncat, List.nil_append, hwl, hw, List.drop_take, List.drop_drop]
    show some (_, ellipsis ++ List.take _ (List.drop _ str)) = _
    clear he' hm' hwl hwhole hstart hcut hw hspan hcount hthree hsize
    congr 5 <;> omega
  · -- truncation at the end: the window's first `maxlength - 3` bytes, then `...`
    simp only [↓reduceIte, Int.one_ne_zero, hlt, h3, hspan, hstart, hthree, hcut, hsize, Option.pure_def,
      Option.bind_eq_bind, Option.some_bind, strncat, List.nil_append, hw, List.take_take]
    show some (_, List.take _ (List.drop _ str) ++ List.take 4 ellipsis) = _
    congr 4; omega

def helloWorld : List UInt8 := [104, 101, 108, 108, 111, 32, 119, 111, 114, 108, 100]

theorem helloWorld_truncated :
    ∃ size out, lwmessageTruncate helloWorld 0 10 7 0 = some (size, out) ∧ size = (7 : Int).toNat + 4 ∧
      out = truncateSpec ((helloWorld.drop (0 : Int).toNat).take ((10 : Int) + 1 - 0).toNat) (7 : Int).toNat 0 ∧
      out.length + 1 ≤ size :=
  @lwmessageTruncate_eq_spec helloWorld 0 10 7 0 (by decide) (by decide) (by decide) (by decide) (by decide)
    (by decide)

/-- A window that ends before it starts, with `endpos - startpos` within an
`int`, gives `strncat` a negative count, a `size_t` past any string: in either
direction the output is the whole string from `startpos` on, which overruns the
`maxlength + 4` bytes allocated whenever it is longer than `maxlength + 3`. -/
theorem lwmessageTruncate_reversed (truncdirection : Int) (hd : truncdirection = 0 ∨ truncdirection = 1)
    (hspan : -2 ^ 31 ≤ endpos - startpos) (hse : endpos + 1 < startpos) (hs0 : 0 ≤ startpos)
    (hs : startpos ≤ str.length) (hm : 0 ≤ maxlength) (hm' : maxlength + 4 < 2 ^ 31) (hlen : str.length ≤ 2 ^ 63) :
    lwmessageTruncate str startpos endpos maxlength truncdirection =
      some (maxlength.toNat + 4, str.drop startpos.toNat) := by
  have hlt : endpos - startpos < maxlength := by omega
  have hsize : sizeT (maxlength + 4) = maxlength.toNat + 4 := by rw [sizeT_of_int (by omega) (by omega)]; omega
  have hall : (str.drop startpos.toNat).length ≤ sizeT (endpos - startpos + 1) := by
    rw [List.length_drop, sizeT]; omega
  have hcopy : strncat [] (str.drop startpos.toNat) (sizeT (endpos - startpos + 1)) = str.drop startpos.toNat := by
    rw [strncat, List.nil_append, List.take_of_length_le hall]
  have hstart : ptrAdd str 0 startpos = some startpos := by rw [ptrAdd_of_le (by omega) (by omega), Int.zero_add]
  unfold lwmessageTruncate
  rcases hd with rfl | rfl <;>
    simp only [cInt_of_range (by omega : -2 ^ 31 ≤ maxlength + 4) hm', cInt_of_range hspan (by omega),
      cInt_of_range (by omega : -2 ^ 31 ≤ endpos - startpos + 1) (by omega), ↓reduceIte, Int.one_ne_zero,
      Int.zero_ne_one, hlt, hstart, hcopy, hsize, Option.pure_def, Option.bind_eq_bind, Option.some_bind]

/-- `" world"`, six characters and a NUL, for at most one: past the five bytes allocated. -/
theorem helloWorld_reversed :
    lwmessageTruncate helloWorld 5 2 1 1 = some ((1 : Int).toNat + 4, helloWorld.drop (5 : Int).toNat) ∧
      (helloWorld.drop 5).length + 1 > (1 : Int).toNat + 4 :=
  ⟨@lwmessageTruncate_reversed helloWorld 5 2 1 1 (Or.inr rfl) (by decide) (by decide) (by decide) (by decide)
    (by decide) (by decide) (by decide), by decide⟩

end

end GSerialized
