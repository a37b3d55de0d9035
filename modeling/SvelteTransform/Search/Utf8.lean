import SvelteTransform.Search.Characters

/-! Ranges of characters as ranges of their UTF-8 bytes. Each range of characters is cut into
pieces whose texts are all that one can put together from a range of first bytes, a range of second
bytes and so on. -/
namespace SvelteTransform.Search

abbrev ByteRange := Nat × Nat

namespace Utf8

def pieces (offset : Nat) : (more low high : Nat) → List (List ByteRange)
  | 0, low, high => [[(offset + low, offset + high)]]
  | more + 1, low, high =>
    let block := Nat.pow 64 (more + 1)
    let first := low / block
    let last := high / block
    let inside (head low high : Nat) : List (List ByteRange) :=
      (pieces 0x80 more low high).map ((offset + head, offset + head) :: ·)
    if first = last then inside first (low % block) (high % block)
    else
      let front := if low % block = 0 then [] else inside first (low % block) (block - 1)
      let back := if high % block = block - 1 then [] else inside last 0 (high % block)
      let start := if low % block = 0 then first else first + 1
      let stop := if high % block = block - 1 then last + 1 else last
      let middle := if start < stop then
        [(offset + start, offset + stop - 1) :: List.replicate (more + 1) (0x80, 0xbf)] else []
      front ++ middle ++ back

def lengths : List (Nat × Nat × Nat × Nat) :=
  [(0, 0x7f, 0, 0), (0x80, 0x7ff, 0xc0, 1), (0x800, 0xd7ff, 0xe0, 2), (0xe000, 0xffff, 0xe0, 2),
    (0x10000, 0x10ffff, 0xf0, 3)]

def ofRange (low high : Nat) : List (List ByteRange) :=
  lengths.flatMap fun (first, last, offset, more) =>
    if max low first ≤ min high last then pieces offset more (max low first) (min high last) else []

end Utf8

def Characters.byteSequences (s : Characters) : List (List ByteRange) :=
  s.ranges.flatMap fun (low, high) => Utf8.ofRange low high

end SvelteTransform.Search
