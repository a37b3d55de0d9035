import SvelteTransform.Sandbox.Digest.Basic

/-! Two older digests of words of 32 bits. Both take a step for each word of a longer list, with
another function of three words in each quarter of the steps. -/
namespace SvelteTransform.Sandbox.Digest
open Text (Bytes)

abbrev Word32 := BitVec 32

def choice (x y z : Word32) : Word32 := (x &&& y) ||| (~~~x &&& z)
def parity (x y z : Word32) : Word32 := x ^^^ y ^^^ z
def majority (x y z : Word32) : Word32 := (x &&& y) ||| (x &&& z) ||| (y &&& z)

def firstWords : List Word32 := [0x67452301, 0xefcdab89, 0x98badcfe, 0x10325476]

namespace Sha1

def schedule : Nat → List Word32 → List Word32
  | 0, _ => []
  | n + 1, window =>
    let word (i : Nat) : Word32 := window.getD i 0
    let new := (word 0 ^^^ word 2 ^^^ word 8 ^^^ word 13).rotateLeft 1
    word 0 :: schedule n (window.tail ++ [new])

def round (state : List Word32) (step : Word32 × Nat) : List Word32 :=
  let (word, n) := step
  match state with
  | [a, b, c, d, e] =>
    let (mixed, constant) : Word32 × Word32 := match n / 20 with
      | 0 => (choice b c d, 0x5a827999)
      | 1 => (parity b c d, 0x6ed9eba1)
      | 2 => (majority b c d, 0x8f1bbcdc)
      | _ => (parity b c d, 0xca62c1d6)
    [a.rotateLeft 5 + mixed + e + constant + word, a, b.rotateLeft 30, c, d]
  | state => state

def compress (state : List Word32) (block : Bytes) : List Word32 :=
  let words := (parts 4 block).map fun bytes => BitVec.ofNat 32 (bigEndian bytes)
  List.zipWith (· + ·) state ((schedule 80 words).zipIdx.foldl round state)

def digest (message : Bytes) : Bytes :=
  ((parts 64 (padded 64 8 bigBytesOf message)).foldl compress (firstWords ++ [0xc3d2e1f0])).flatMap
    fun word => bigBytesOf 4 word.toNat

end Sha1

namespace Md5

def constants : List Word32 := [
  0xd76aa478, 0xe8c7b756, 0x242070db, 0xc1bdceee, 0xf57c0faf, 0x4787c62a, 0xa8304613, 0xfd469501,
  0x698098d8, 0x8b44f7af, 0xffff5bb1, 0x895cd7be, 0x6b901122, 0xfd987193, 0xa679438e, 0x49b40821,
  0xf61e2562, 0xc040b340, 0x265e5a51, 0xe9b6c7aa, 0xd62f105d, 0x02441453, 0xd8a1e681, 0xe7d3fbc8,
  0x21e1cde6, 0xc33707d6, 0xf4d50d87, 0x455a14ed, 0xa9e3e905, 0xfcefa3f8, 0x676f02d9, 0x8d2a4c8a,
  0xfffa3942, 0x8771f681, 0x6d9d6122, 0xfde5380c, 0xa4beea44, 0x4bdecfa9, 0xf6bb4b60, 0xbebfbc70,
  0x289b7ec6, 0xeaa127fa, 0xd4ef3085, 0x04881d05, 0xd9d4d039, 0xe6db99e5, 0x1fa27cf8, 0xc4ac5665,
  0xf4292244, 0x432aff97, 0xab9423a7, 0xfc93a039, 0x655b59c3, 0x8f0ccc92, 0xffeff47d, 0x85845dd1,
  0x6fa87e4f, 0xfe2ce6e0, 0xa3014314, 0x4e0811a1, 0xf7537e82, 0xbd3af235, 0x2ad7d2bb, 0xeb86d391]

def quarter (n : Nat) : (Word32 → Word32 → Word32 → Word32) × Nat × List Nat :=
  match n / 16 with
  | 0 => (choice, n, [7, 12, 17, 22])
  | 1 => (fun x y z => choice z x y, 5 * n + 1, [5, 9, 14, 20])
  | 2 => (parity, 3 * n + 5, [4, 11, 16, 23])
  | _ => (fun x y z => y ^^^ (x ||| ~~~z), 7 * n, [6, 10, 15, 21])

def compress (state : List Word32) (block : Bytes) : List Word32 :=
  let words := (parts 4 block).map fun bytes => BitVec.ofNat 32 (littleEndian bytes)
  let round : List Word32 → Word32 × Nat → List Word32 := fun state (constant, n) =>
    let (mix, place, rotations) := quarter n
    match state with
    | [a, b, c, d] =>
      let sum := a + mix b c d + constant + words.getD (place % 16) 0
      [d, b + sum.rotateLeft (rotations.getD (n % 4) 0), b, c]
    | state => state
  List.zipWith (· + ·) state (constants.zipIdx.foldl round state)

def digest (message : Bytes) : Bytes :=
  ((parts 64 (padded 64 8 bytesOf message)).foldl compress firstWords).flatMap
    fun word => bytesOf 4 word.toNat

end Md5
end SvelteTransform.Sandbox.Digest
