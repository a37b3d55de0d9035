import SvelteTransform.Sandbox.Digest.Basic

/-! The second family of secure hashes. Its members differ in the width of a word, in the
distances of their rotations and in what they start from. -/
namespace SvelteTransform.Sandbox.Digest
open Text (Bytes)

structure Mixing where
  first : Nat
  second : Nat
  third : Nat
  shifts : Bool

def Mixing.apply {w : Nat} (m : Mixing) (x : BitVec w) : BitVec w :=
  x.rotateRight m.first ^^^ x.rotateRight m.second ^^^
    (if m.shifts then x >>> m.third else x.rotateRight m.third)

structure Sha2 (w : Nat) where
  constants : List (BitVec w)
  start : List (BitVec w)
  early : Mixing
  late : Mixing
  choosing : Mixing
  voting : Mixing
  size : Nat

namespace Sha2

variable {w : Nat}

def nextWord (p : Sha2 w) (window : List (BitVec w)) : BitVec w :=
  let word (n : Nat) : BitVec w := window.getD n 0
  word 0 + p.early.apply (word 1) + word 9 + p.late.apply (word 14)

def round (p : Sha2 w) (state : List (BitVec w)) (constant word : BitVec w) : List (BitVec w) :=
  match state with
  | [a, b, c, d, e, f, g, h] =>
    let choice := (e &&& f) ^^^ (~~~e &&& g)
    let majority := (a &&& b) ^^^ (a &&& c) ^^^ (b &&& c)
    let one := h + p.choosing.apply e + choice + constant + word
    let two := p.voting.apply a + majority
    [one + two, a, b, c, d + one, e, f, g]
  | state => state

def compress (p : Sha2 w) (state : List (BitVec w)) (block : Bytes) : List (BitVec w) :=
  let words := (parts (w / 8) block).map fun bytes => BitVec.ofNat w (bigEndian bytes)
  let step : List (BitVec w) × List (BitVec w) → BitVec w → List (BitVec w) × List (BitVec w) :=
    fun (state, window) constant =>
      (p.round state constant (window.headD 0), window.tail ++ [p.nextWord window])
  List.zipWith (· + ·) state (p.constants.foldl step (state, words)).1

def digest (p : Sha2 w) (message : Bytes) : Bytes :=
  let blocks := parts (2 * w) (padded (2 * w) (w / 4) bigBytesOf message)
  ((blocks.foldl p.compress p.start).flatMap fun word => bigBytesOf (w / 8) word.toNat).take p.size

def rootWords (degree bits w count : Nat) : List (BitVec w) :=
  (primes count).map fun n => BitVec.ofNat w (rootBits degree bits n)

def sha256 : Sha2 32 where
  constants := rootWords 3 32 32 64
  start := rootWords 2 32 32 8
  early := ⟨7, 18, 3, true⟩
  late := ⟨17, 19, 10, true⟩
  choosing := ⟨6, 11, 25, false⟩
  voting := ⟨2, 13, 22, false⟩
  size := 32

def sha224 : Sha2 32 :=
  { sha256 with start := (rootWords 2 64 32 16).drop 8, size := 28 }

def sha512 : Sha2 64 where
  constants := rootWords 3 64 64 80
  start := rootWords 2 64 64 8
  early := ⟨1, 8, 7, true⟩
  late := ⟨19, 61, 6, true⟩
  choosing := ⟨14, 18, 41, false⟩
  voting := ⟨28, 34, 39, false⟩
  size := 64

def sha384 : Sha2 64 :=
  { sha512 with start := (rootWords 2 64 64 16).drop 8, size := 48 }

end Sha2
end SvelteTransform.Sandbox.Digest
