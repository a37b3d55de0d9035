/-! Versions of the component compiler. Only the major number matters: Svelte 3 is the last one
that takes the old options and can be used from synchronous hosts. -/
namespace SvelteTransform

structure Version where
  text : String
  deriving DecidableEq, Repr

namespace Version

def isDigit (c : Char) : Bool := '0' ≤ c && c ≤ '9'

def number? (digits : List Char) : Option Nat :=
  if digits ≠ [] ∧ digits.all isDigit then
    let n := digits.foldl (fun n c => n * 10 + (c.toNat - '0'.toNat)) 0
    if n < UInt64.size then some n else none
  else none

/-- The number before the first point, after whatever precedes the first digit. -/
def major (v : Version) : Option Nat :=
  number? ((v.text.toList.dropWhile (!isDigit ·)).takeWhile (· != '.'))

def isLegacy (v : Version) : Bool := v.major = some 3

end Version
end SvelteTransform
