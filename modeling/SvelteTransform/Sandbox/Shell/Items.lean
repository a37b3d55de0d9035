import SvelteTransform.Sandbox.Octets

/-! The values of an array, by numbers or by keys. -/
namespace SvelteTransform.Sandbox.Shell

inductive Items where
  | numbered (items : List (Nat × Octets))
  | keyed (items : List (Octets × Octets))
  deriving DecidableEq, Repr

namespace Items

def hash (text : Octets) : Nat :=
  text.foldl (fun n c => ((n * 16777619) % 4294967296) ^^^ c.toNat) 2166136261

def place (text : Octets) : Nat := hash text % 1024

def filed {α : Type} (items : List (Octets × α)) : List (Octets × α) :=
  items.mergeSort fun a b => place a.1 ≤ place b.1

def pairs : Items → List (Octets × Octets)
  | .numbered items => items.map fun (n, value) => (Octets.ofInt (n : Nat), value)
  | .keyed items => filed items

def keys (i : Items) : List Octets := i.pairs.map (·.1)
def values (i : Items) : List Octets := i.pairs.map (·.2)

def get? (key : Octets) : Items → Option Octets
  | .numbered items => items.lookup (Octets.natural key)
  | .keyed items => items.lookup key

def insert (n : Nat) (value : Octets) : List (Nat × Octets) → List (Nat × Octets)
  | [] => [(n, value)]
  | (m, old) :: rest =>
    if n < m then (n, value) :: (m, old) :: rest
    else if n = m then (n, value) :: rest
    else (m, old) :: insert n value rest

def set (key value : Octets) : Items → Items
  | .numbered items => .numbered (insert (Octets.natural key) value items)
  | .keyed items =>
    if items.any (·.1 = key) then
      .keyed (items.map fun (k, old) => (k, if k = key then value else old))
    else .keyed ((key, value) :: items)

def erase (key : Octets) : Items → Items
  | .numbered items => .numbered (items.filter (·.1 != Octets.natural key))
  | .keyed items => .keyed (items.filter (·.1 != key))

def next : Items → Nat
  | .numbered items => (items.getLast?.map (·.1 + 1)).getD 0
  | .keyed _ => 0

def size : Items → Nat
  | .numbered items => items.length
  | .keyed items => items.length

def isKeyed : Items → Bool
  | .keyed _ => true
  | .numbered _ => false

def ofList (values : List Octets) : Items :=
  .numbered (values.mapIdx fun i value => (i, value))

end Items
end SvelteTransform.Sandbox.Shell
