/-! Blank characters of Unicode and trimming by them. A byte order mark and a zero-width
space are not blank; a no-break space and the ideographic space are. -/
namespace SvelteTransform.Text

def isBlank (c : Char) : Bool :=
  let n := c.toNat
  (9 ≤ n && n ≤ 13) || n == 0x20 || n == 0x85 || n == 0xA0 || n == 0x1680 ||
  (0x2000 ≤ n && n ≤ 0x200A) || n == 0x2028 || n == 0x2029 || n == 0x202F || n == 0x205F ||
  n == 0x3000

def trimLeft (text : List Char) : List Char := text.dropWhile isBlank

def trimRight (text : List Char) : List Char :=
  if text.getLast?.any isBlank then (text.reverse.dropWhile isBlank).reverse else text

def trim (text : List Char) : List Char := trimRight (trimLeft text)

end SvelteTransform.Text
