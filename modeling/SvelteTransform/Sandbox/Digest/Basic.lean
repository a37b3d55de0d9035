import SvelteTransform.Text.Utf8

/-! What digests have in common: bytes as words, padding to whole blocks, digits, and constants
that are the first bits behind the point of the roots of primes. -/
namespace SvelteTransform.Sandbox.Digest
open Text (Bytes)

def parts {α : Type} (size : Nat) (items : List α) : List (List α) :=
  go items.length items
where
  go : Nat → List α → List (List α)
    | 0, _ | _, [] => []
    | fuel + 1, items => items.take size :: go fuel (items.drop size)

def bigEndian (bytes : Bytes) : Nat := bytes.foldl (fun n b => n * 256 + b.toNat) 0
def littleEndian (bytes : Bytes) : Nat := bigEndian bytes.reverse

def bytesOf : (size n : Nat) → Bytes
  | 0, _ => []
  | size + 1, n => n.toUInt8 :: bytesOf size (n / 256)

def bigBytesOf (size n : Nat) : Bytes := (bytesOf size n).reverse

def padded (block lengthSize : Nat) (length : Nat → Nat → Bytes) (message : Bytes) : Bytes :=
  let used := (message.length + 1 + lengthSize) % block
  let zeros := List.replicate ((block - used) % block) (0 : UInt8)
  message ++ 0x80 :: zeros ++ length lengthSize (8 * message.length)

def hexDigits (bytes : Bytes) : List Char :=
  bytes.flatMap fun b => [Nat.digitChar (b.toNat / 16), Nat.digitChar (b.toNat % 16)]

def root (degree : Nat) : (bits n : Nat) → Nat
  | 0, _ => 0
  | bits + 1, n =>
    -- The higher bits are those of the root of what is left of `n` without its lowest digits.
    let high := 2 * root degree bits (n / Nat.pow 2 degree)
    if Nat.pow (high + 1) degree ≤ n then high + 1 else high

def primes (count : Nat) : List Nat :=
  ((List.range 410).filter fun n =>
    2 ≤ n && (List.range n).all fun d => d < 2 || n % d != 0).take count

def rootBits (degree bits n : Nat) : Nat :=
  root degree (bits + 5) (n * Nat.pow 2 (degree * bits)) % Nat.pow 2 bits

end SvelteTransform.Sandbox.Digest
