import SvelteTransform.Sandbox.Octets

/-! Which lines of two texts differ. As few lines as possible are taken out of the one and put in
from the other; of several such ways one is chosen by searching from both ends at once. -/
namespace SvelteTransform.Sandbox.Tools.Difference

structure Found where
  first : Array Bool
  second : Array Bool

abbrev Reach := Array Int

def Reach.at (r : Reach) (shift : Nat) (d : Int) : Int := r.getD (d + shift).toNat 0

def Reach.put (r : Reach) (shift : Nat) (d x : Int) : Reach := r.setIfInBounds (d + shift).toNat x

structure Window where
  left : Int
  right : Int
  top : Int
  bottom : Int

section
variable (a b : Array Nat)

def sameAt (x y : Int) : Bool := a.getD x.toNat 0 = b.getD y.toNat 0

def slideDown (w : Window) (d : Int) : (fuel : Nat) → Int → Int
  | 0, x => x
  | fuel + 1, x =>
    if x < w.right && x - d < w.bottom && sameAt a b x (x - d) then slideDown w d fuel (x + 1) else x

def slideUp (w : Window) (d : Int) : (fuel : Nat) → Int → Int
  | 0, x => x
  | fuel + 1, x =>
    if w.left < x && w.top < x - d && sameAt a b (x - 1) (x - 1 - d) then slideUp w d fuel (x - 1)
    else x

structure Searches where
  down : Reach
  up : Reach
  downMin : Int
  downMax : Int
  upMin : Int
  upMax : Int

def extendDown (w : Window) (shift : Nat) (odd : Bool) (s : Searches) :
    (fuel : Nat) → Int → Searches × Option (Int × Int)
  | 0, _ => (s, none)
  | fuel + 1, d =>
    if d < s.downMin then (s, none)
    else
      let low := s.down.at shift (d - 1)
      let high := s.down.at shift (d + 1)
      let x := slideDown a b w d (w.right - w.left + 1).toNat (if low < high then high else low + 1)
      let s := { s with down := s.down.put shift d x }
      if odd && s.upMin ≤ d && d ≤ s.upMax && s.up.at shift d ≤ x then (s, some (x, x - d))
      else extendDown w shift odd s fuel (d - 2)

def extendUp (w : Window) (shift : Nat) (odd : Bool) (s : Searches) :
    (fuel : Nat) → Int → Searches × Option (Int × Int)
  | 0, _ => (s, none)
  | fuel + 1, d =>
    if d < s.upMin then (s, none)
    else
      let low := s.up.at shift (d - 1)
      let high := s.up.at shift (d + 1)
      let x := slideUp a b w d (w.right - w.left + 1).toNat (if low < high then low else high - 1)
      let s := { s with up := s.up.put shift d x }
      if !odd && s.downMin ≤ d && d ≤ s.downMax && x ≤ s.down.at shift d then (s, some (x, x - d))
      else extendUp w shift odd s fuel (d - 2)

def beyond (w : Window) : Int := w.right + w.bottom + 4

def middle (w : Window) (shift : Nat) (odd : Bool) : (fuel : Nat) → Searches → Int × Int
  | 0, _ => (w.left, w.top)
  | fuel + 1, s =>
    let least := w.left - w.bottom
    let most := w.right - w.top
    let count := (most - least + 3).toNat
    let s := if least < s.downMin then
        { s with downMin := s.downMin - 1, down := s.down.put shift (s.downMin - 2) (-1) }
      else { s with downMin := s.downMin + 1 }
    let s := if s.downMax < most then
        { s with downMax := s.downMax + 1, down := s.down.put shift (s.downMax + 2) (-1) }
      else { s with downMax := s.downMax - 1 }
    match extendDown a b w shift odd s count s.downMax with
    | (_, some found) => found
    | (s, none) =>
      let s := if least < s.upMin then
          { s with upMin := s.upMin - 1, up := s.up.put shift (s.upMin - 2) (beyond w) }
        else { s with upMin := s.upMin + 1 }
      let s := if s.upMax < most then
          { s with upMax := s.upMax + 1, up := s.up.put shift (s.upMax + 2) (beyond w) }
        else { s with upMax := s.upMax - 1 }
      match extendUp a b w shift odd s count s.upMax with
      | (_, some found) => found
      | (s, none) => middle w shift odd fuel s

def marked (marks : Array Bool) (low high : Int) : Array Bool :=
  (List.range (high - low).toNat).foldl (fun marks i => marks.setIfInBounds (low.toNat + i) true) marks

def compareIn : (fuel : Nat) → Window → Found → Found
  | 0, _, f => f
  | fuel + 1, w, f =>
    let size := (w.right - w.left + 1).toNat
    let left := slideDown a b w (w.left - w.top) size w.left
    let w := { w with left, top := w.top + (left - w.left) }
    let right := slideUp a b w (w.right - w.bottom) size w.right
    let w := { w with right, bottom := w.bottom - (w.right - right) }
    if w.left = w.right then { f with second := marked f.second w.top w.bottom }
    else if w.top = w.bottom then { f with first := marked f.first w.left w.right }
    else
      let shift := (w.bottom + 2).toNat
      let size := (w.right + w.bottom).toNat + 6
      let forward := w.left - w.top
      let backward := w.right - w.bottom
      let s : Searches := {
        down := Reach.put (Array.replicate size 0) shift forward w.left
        up := Reach.put (Array.replicate size 0) shift backward w.right
        downMin := forward, downMax := forward, upMin := backward, upMax := backward }
      let (x, y) := middle a b w shift ((forward - backward) % 2 != 0) size s
      let f := compareIn fuel { w with right := x, bottom := y } f
      compareIn fuel { w with left := x, top := y } f
end

def shared (lines others : Array Nat) : Array Nat × Array Nat :=
  let there := others.foldl (fun (there : Array Bool) n => there.setIfInBounds n true)
    (Array.replicate ((lines ++ others).foldl max 0 + 1) false)
  let kept := lines.toList.zipIdx.filter fun (line, _) => there.getD line false
  ((kept.map (·.1)).toArray, (kept.map (·.2)).toArray)

structure Run where
  changed : Array Bool
  start : Nat
  stop : Nat
  other : Nat

def isMarked (marks : Array Bool) (n : Int) : Bool := 0 ≤ n && marks.getD n.toNat false

def back (marks : Array Bool) : (fuel : Nat) → Nat → Nat
  | 0, j => j
  | fuel + 1, j => if isMarked marks ((j : Int) - 1) then back marks fuel (j - 1) else j - 1

def onward (marks : Array Bool) : (fuel : Nat) → Nat → Nat
  | 0, j => j
  | fuel + 1, j => if isMarked marks j then onward marks fuel (j + 1) else j

def startOf (marks : Array Bool) : (fuel : Nat) → Nat → Nat
  | 0, j => j
  | fuel + 1, j => if 0 < j && isMarked marks ((j : Int) - 1) then startOf marks fuel (j - 1) else j

section
variable (lines : Array Nat) (others : Array Bool)

def moveBack : (fuel : Nat) → Run → Run
  | 0, r => r
  | fuel + 1, r =>
    if 0 < r.start && lines.getD (r.start - 1) 0 = lines.getD (r.stop - 1) 0 then
      let changed := (r.changed.setIfInBounds (r.start - 1) true).setIfInBounds (r.stop - 1) false
      moveBack fuel {
        changed, start := startOf changed changed.size (r.start - 1), stop := r.stop - 1
        other := back others (others.size + 1) r.other }
    else r

def moveOn : (fuel : Nat) → (at_ : Nat) → Run → Nat × Run
  | 0, at_, r => (at_, r)
  | fuel + 1, at_, r =>
    if r.stop < lines.size && lines.getD r.start 0 = lines.getD r.stop 0 then
      let changed := (r.changed.setIfInBounds r.start false).setIfInBounds r.stop true
      let stop := onward changed changed.size (r.stop + 1)
      let other := onward others (others.size + 1) (r.other + 1)
      let at_ := if r.other + 1 < other then stop else at_
      moveOn fuel at_ { changed, start := r.start + 1, stop, other }
    else (at_, r)

def settle : (fuel : Nat) → Run → Nat × Run
  | 0, r => (lines.size, r)
  | fuel + 1, r =>
    let length := r.stop - r.start
    let r := moveBack lines others (lines.size + 1) r
    let at_ := if isMarked others ((r.other : Int) - 1) then r.stop else lines.size
    let (at_, r) := moveOn lines others (lines.size + 1) at_ r
    if length = r.stop - r.start then (at_, r) else settle fuel r

def moveTo (at_ : Nat) : (fuel : Nat) → Run → Run
  | 0, r => r
  | fuel + 1, r =>
    if at_ < r.stop then
      moveTo at_ fuel { r with
        changed := (r.changed.setIfInBounds (r.start - 1) true).setIfInBounds (r.stop - 1) false
        start := r.start - 1, stop := r.stop - 1
        other := back others (others.size + 1) r.other }
    else r

def passOver : (fuel : Nat) → Nat → Nat
  | 0, j => j
  | fuel + 1, j => if isMarked others j then passOver fuel (j + 1) else j + 1

def shifted : (fuel : Nat) → (i j : Nat) → Array Bool → Array Bool
  | 0, _, _, changed => changed
  | fuel + 1, i, j, changed =>
    if lines.size ≤ i then changed
    else if !isMarked changed i then shifted fuel (i + 1) (passOver others (others.size + 1) j) changed
    else
      let r : Run := {
        changed, start := i, stop := onward changed changed.size i
        other := onward others (others.size + 1) j }
      let (at_, r) := settle lines others (lines.size + 1) r
      let r := moveTo others at_ (lines.size + 1) r
      shifted fuel r.stop r.other r.changed
end

structure Hunk where
  start : Nat
  removed : Nat
  startOther : Nat
  added : Nat
  deriving DecidableEq, Repr

def hunksOf (first second : Array Bool) : (fuel : Nat) → (i j : Nat) → List Hunk
  | 0, _, _ => []
  | fuel + 1, i, j =>
    if first.size ≤ i && second.size ≤ j then []
    else
      let i' := onward first (first.size + 1) i
      let j' := onward second (second.size + 1) j
      if i' = i && j' = j then hunksOf first second fuel (i + 1) (j + 1)
      else ⟨i, i' - i, j, j' - j⟩ :: hunksOf first second fuel i' j'

def hunks (horizon : Nat) (endsAlike : Bool) (a b : Array Nat) : List Hunk :=
  let alike (a b : List Nat) : Nat := ((a.zip b).takeWhile fun (x, y) => x = y).length
  let front := alike a.toList b.toList - horizon
  let behind := min (min a.size b.size - front) (alike a.toList.reverse b.toList.reverse)
  let behind := if endsAlike then behind - horizon else 0
  let a := a.extract front (a.size - behind)
  let b := b.extract front (b.size - behind)
  let (x, xs) := shared a b
  let (y, ys) := shared b a
  let f := compareIn x y (x.size + y.size + 2) ⟨0, x.size, 0, y.size⟩
    ⟨Array.replicate x.size false, Array.replicate y.size false⟩
  let spread (size : Nat) (kept : Array Nat) (marks : Array Bool) : Array Bool :=
    (List.range kept.size).foldl
      (fun all i => all.setIfInBounds (kept.getD i 0) (marks.getD i false)) (Array.replicate size true)
  let first := spread a.size xs f.first
  let second := spread b.size ys f.second
  let first := shifted a second (a.size + 1) 0 0 first
  let second := shifted b first (b.size + 1) 0 0 second
  (hunksOf first second (a.size + b.size + 1) 0 0).map fun h =>
    { h with start := h.start + front, startOther := h.startOther + front }

end SvelteTransform.Sandbox.Tools.Difference
