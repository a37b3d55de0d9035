import SvelteTransform.Sandbox.Digest.Sha2

/-! A digest of words of 64 bits in a square of four by four, of which columns and diagonals are
mixed by turns. -/
namespace SvelteTransform.Sandbox.Digest.Blake2
open Text (Bytes)

abbrev Word64 := BitVec 64

def start : List Word64 := Sha2.sha512.start

def orders : List (List Nat) := [
  [0, 1, 2, 3, 4, 5, 6, 7, 8, 9, 10, 11, 12, 13, 14, 15],
  [14, 10, 4, 8, 9, 15, 13, 6, 1, 12, 0, 2, 11, 7, 5, 3],
  [11, 8, 12, 0, 5, 2, 15, 13, 10, 14, 3, 6, 7, 1, 9, 4],
  [7, 9, 3, 1, 13, 12, 11, 14, 2, 6, 5, 10, 4, 0, 15, 8],
  [9, 0, 5, 7, 2, 4, 10, 15, 14, 1, 11, 12, 6, 8, 3, 13],
  [2, 12, 6, 10, 0, 11, 8, 3, 4, 13, 7, 5, 15, 14, 1, 9],
  [12, 5, 1, 15, 14, 13, 4, 10, 0, 7, 6, 3, 9, 2, 8, 11],
  [13, 11, 7, 14, 12, 1, 3, 9, 5, 0, 15, 4, 8, 6, 2, 10],
  [6, 15, 14, 9, 11, 3, 0, 8, 12, 2, 13, 7, 1, 4, 10, 5],
  [10, 2, 8, 4, 7, 6, 1, 5, 15, 11, 9, 14, 3, 12, 13, 0]]

def places : List (Nat × Nat × Nat × Nat) := [
  (0, 4, 8, 12), (1, 5, 9, 13), (2, 6, 10, 14), (3, 7, 11, 15),
  (0, 5, 10, 15), (1, 6, 11, 12), (2, 7, 8, 13), (3, 4, 9, 14)]

def mix (square : List Word64) (at_ : Nat × Nat × Nat × Nat) (x y : Word64) : List Word64 :=
  let (i, j, k, l) := at_
  let half (state : Word64 × Word64 × Word64 × Word64) (word : Word64) (first second : Nat) :
      Word64 × Word64 × Word64 × Word64 :=
    let (a, b, c, d) := state
    let a := a + b + word
    let d := (d ^^^ a).rotateRight first
    let c := c + d
    (a, (b ^^^ c).rotateRight second, c, d)
  let (a, b, c, d) := half (half
    (square.getD i 0, square.getD j 0, square.getD k 0, square.getD l 0) x 32 24) y 16 63
  (((square.set i a).set j b).set k c).set l d

def compress (last : Bool) (state : List Word64) (block : Bytes) (passed : Nat) : List Word64 :=
  let words := (parts 8 block).map fun bytes => BitVec.ofNat 64 (littleEndian bytes)
  let square := state ++ start
  let square := square.set 12 (square.getD 12 0 ^^^ BitVec.ofNat 64 passed)
  let square := if last then square.set 14 (~~~(square.getD 14 0)) else square
  let round (square : List Word64) (order : List Nat) : List Word64 :=
    let chosen := parts 2 (order.map fun n => words.getD n 0)
    (places.zip chosen).foldl (fun square (at_, pair) =>
      mix square at_ (pair.getD 0 0) (pair.getD 1 0)) square
  let mixed := (orders ++ orders.take 2).foldl round square
  List.zipWith (· ^^^ ·) state (List.zipWith (· ^^^ ·) (mixed.take 8) (mixed.drop 8))

def absorb : (fuel passed : Nat) → List Word64 → Bytes → List Word64
  | 0, _, state, _ => state
  | fuel + 1, passed, state, message =>
    if message.length ≤ 128 then
      let block := message ++ List.replicate (128 - message.length) 0
      compress true state block (passed + message.length)
    else
      absorb fuel (passed + 128) (compress false state (message.take 128) (passed + 128))
        (message.drop 128)

def digest (size : Nat) (message : Bytes) : Bytes :=
  let first := start.headD 0 ^^^ BitVec.ofNat 64 (0x01010000 + size)
  let state := absorb (message.length + 1) 0 (first :: start.tail) message
  (state.flatMap fun word => bytesOf 8 word.toNat).take size

end SvelteTransform.Sandbox.Digest.Blake2
