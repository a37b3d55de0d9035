/-! Sets of characters as ranges of code points, with the operations that a class in brackets is
built from. -/
namespace SvelteTransform.Search

structure Characters where
  ranges : List (Nat × Nat)
  deriving DecidableEq, Repr

namespace Characters

def joined : List (Nat × Nat) → List (Nat × Nat)
  | [] => []
  | (low, high) :: rest => go low high rest
where
  go (low high : Nat) : List (Nat × Nat) → List (Nat × Nat)
    | [] => [(low, high)]
    | (a, b) :: rest =>
      if a ≤ high + 1 then go low (max high b) rest else (low, high) :: go a b rest

def ofNumbers (ranges : List (Nat × Nat)) : Characters :=
  ⟨joined (ranges.mergeSort fun a b => a.1 ≤ b.1)⟩

def none : Characters := ⟨[]⟩
def one (c : Char) : Characters := ⟨[(c.toNat, c.toNat)]⟩
def ofRange (low high : Char) : Characters := ⟨[(low.toNat, high.toNat)]⟩
def ofRanges (ranges : List (Char × Char)) : Characters :=
  ofNumbers (ranges.map fun (low, high) => (low.toNat, high.toNat))

def isEmpty (s : Characters) : Bool := s.ranges.isEmpty
def isAscii (s : Characters) : Bool := s.ranges.all (·.2 < 128)
def holds (s : Characters) (c : Char) : Bool :=
  s.ranges.any fun (low, high) => low ≤ c.toNat && c.toNat ≤ high

def only? (s : Characters) : Option Char :=
  match s.ranges with
  | [(low, high)] => if low = high then some (Char.ofNat low) else Option.none
  | _ => Option.none

def gaps (top : Nat) : Nat → List (Nat × Nat) → List (Nat × Nat)
  | first, [] => if first ≤ top then [(first, top)] else []
  | first, (low, high) :: rest =>
    (if first < low then [(first, low - 1)] else []) ++ gaps top (max first (high + 1)) rest

def complement (top : Nat) (s : Characters) : Characters := ⟨gaps top 0 s.ranges⟩

def union (s t : Characters) : Characters := ofNumbers (s.ranges ++ t.ranges)

def common (low high : Nat) (s : Characters) : List (Nat × Nat) :=
  s.ranges.filterMap fun (a, b) =>
    if max low a ≤ min high b then some (max low a, min high b) else Option.none

def intersection (s t : Characters) : Characters :=
  ⟨s.ranges.flatMap fun (low, high) => t.common low high⟩

def bothCases (s : Characters) : Characters :=
  let lower := (s.common 'A'.toNat 'Z'.toNat).map fun (a, b) => (a + 32, b + 32)
  let upper := (s.common 'a'.toNat 'z'.toNat).map fun (a, b) => (a - 32, b - 32)
  ofNumbers (s.ranges ++ lower ++ upper)

def digit : Characters := ofRange '0' '9'
def space : Characters := ofRanges [('\t', '\r'), (' ', ' ')]
def word : Characters := ofRanges [('0', '9'), ('A', 'Z'), ('_', '_'), ('a', 'z')]

def named? (name : List Char) : Option Characters :=
  (List.lookup (String.ofList name) [
    ("alnum", [('0', '9'), ('A', 'Z'), ('a', 'z')]),
    ("alpha", [('A', 'Z'), ('a', 'z')]),
    ("ascii", [('\x00', '\x7f')]),
    ("blank", [('\t', '\t'), (' ', ' ')]),
    ("cntrl", [('\x00', '\x1f'), ('\x7f', '\x7f')]),
    ("digit", [('0', '9')]),
    ("graph", [('!', '~')]),
    ("lower", [('a', 'z')]),
    ("print", [(' ', '~')]),
    ("punct", [('!', '/'), (':', '@'), ('[', '\x60'), ('\x7b', '~')]),
    ("space", [('\t', '\r'), (' ', ' ')]),
    ("upper", [('A', 'Z')]),
    ("word", [('0', '9'), ('A', 'Z'), ('_', '_'), ('a', 'z')]),
    ("xdigit", [('0', '9'), ('A', 'F'), ('a', 'f')])]).map ofRanges

end Characters
end SvelteTransform.Search
