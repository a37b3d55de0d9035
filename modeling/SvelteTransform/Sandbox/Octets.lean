import SvelteTransform.Text.Utf8

/-! Bytes as characters. Programs work on bytes; here each byte is held as the character with its
number, so that it can be compared with characters as they are written. -/
namespace SvelteTransform.Sandbox
open Text (Bytes)

abbrev Octets := List Char

namespace Octets

def ofBytes (bytes : Bytes) : Octets := bytes.map fun b => Char.ofNat b.toNat
def toBytes (octets : Octets) : Bytes := octets.map fun c => c.toNat.toUInt8

def ofText (text : List Char) : Octets := ofBytes (Text.utf8 text)
def toText (octets : Octets) : List Char := Text.ofUtf8Lossy octets.toBytes

def isDigit (c : Char) : Bool := '0' ≤ c && c ≤ '9'
def isNameStart (c : Char) : Bool :=
  ('a' ≤ c && c ≤ 'z') || ('A' ≤ c && c ≤ 'Z') || c = '_'
def isNamePart (c : Char) : Bool := isNameStart c || isDigit c

def isName : Octets → Bool
  | [] => false
  | c :: rest => isNameStart c && rest.all isNamePart

def natural (digits : Octets) : Nat := digits.foldl (fun n c => n * 10 + (c.toNat - '0'.toNat)) 0

def isNumber (digits : Octets) : Bool := digits != [] && digits.all isDigit

def integer? : Octets → Option Int
  | '-' :: digits => if isNumber digits then some (-(natural digits : Int)) else none
  | '+' :: digits | digits => if isNumber digits then some (natural digits) else none

def ofInt (n : Int) : Octets := (toString n).toList

def isBlank (c : Char) : Bool := c = ' ' || c = '\t'
def isSpace (c : Char) : Bool := c = ' ' || ('\t' ≤ c && c ≤ '\r')
def isUpper (c : Char) : Bool := 'A' ≤ c && c ≤ 'Z'
def isLower (c : Char) : Bool := 'a' ≤ c && c ≤ 'z'

def byte (n : Nat) : Char := Char.ofNat (n % 256)

def noise (count : Nat) : Octets :=
  let rec go : Nat → UInt32 → Octets → Octets
    | 0, _, found => found
    | left + 1, state, found =>
      go left (state * 1664525 + 1013904223) (byte (state >>> 24).toNat :: found)
  go count 12345 []

def say (text : String) : Octets := ofText text.toList

def dropLineEnds (text : Octets) : Octets := (text.reverse.dropWhile (· = '\n')).reverse

def partsTo (last : Char) : Octets → List Octets
  | [] => []
  | c :: rest =>
    if c = last then [last] :: partsTo last rest
    else match partsTo last rest with
      | [] => [[c]]
      | part :: more => (c :: part) :: more

def lines (text : Octets) : List Octets := partsTo '\n' text

def isWithin (part : Octets) : Octets → Bool
  | [] => part = []
  | c :: rest => part.isPrefixOf (c :: rest) || isWithin part rest

def firstBytes (n : Nat) (text : Octets) : Octets := if text.length ≤ n then text else text.take n

def firstParts (last : Char) : Nat → Octets → Octets
  | 0, _ | _, [] => []
  | n + 1, c :: rest => c :: firstParts last (if c = last then n else n + 1) rest

end Octets
end SvelteTransform.Sandbox
