import SvelteTransform.Sandbox.Digest.Basic

/-! Short sums that tell damaged texts. -/
namespace SvelteTransform.Sandbox.Digest.Checksum
open Text (Bytes)

def shift (crc : BitVec 32) : BitVec 32 :=
  if crc.msb then (crc <<< 1) ^^^ 0x04c11db7 else crc <<< 1

def feed (crc : BitVec 32) (byte : UInt8) : BitVec 32 :=
  Nat.repeat shift 8 (crc ^^^ (BitVec.ofNat 32 byte.toNat <<< 24))

def lengthBytes : (fuel n : Nat) → Bytes
  | 0, _ => []
  | fuel + 1, n => if n = 0 then [] else n.toUInt8 :: lengthBytes fuel (n / 256)

def remainder (text : Bytes) : Nat :=
  (~~~((text ++ lengthBytes 8 text.length).foldl feed 0)).toNat

def rotating (text : Bytes) : Nat :=
  (text.foldl (fun sum b => sum.rotateRight 1 + BitVec.ofNat 16 b.toNat) (0 : BitVec 16)).toNat

def plain (text : Bytes) : Nat :=
  let sum := text.foldl (· + ·.toNat) 0 % 0x100000000
  let folded := sum % 0x10000 + sum / 0x10000
  folded % 0x10000 + folded / 0x10000

end SvelteTransform.Sandbox.Digest.Checksum
