import SvelteTransform.Sandbox.Awk.Syntax

/-! Which names are those of arrays. How a name is used tells it, or what it is passed to. -/
namespace SvelteTransform.Sandbox.Awk

structure Scoped where
  function : Option Octets
  name : Octets
  deriving DecidableEq, Repr

structure Passed where
  name : Option Scoped
  function : Octets
  place : Nat
  line : Nat

structure Kinds where
  scalars : List Scoped := []
  arrays : List Scoped := []
  passed : List Passed := []

namespace Kinds

def parameter? (parameters : List (Octets × List Octets)) (p : Passed) : Option Scoped := do
  let names ← parameters.lookup p.function
  let name ← names[p.place]?
  return ⟨some p.function, name⟩

def once (parameters : List (Octets × List Octets)) (k : Kinds) : Kinds :=
  k.passed.foldl (fun k p =>
    match p.name, parameter? parameters p with
    | some name, some parameter =>
      let known := k.arrays.contains name || k.arrays.contains parameter
      if !known then k
      else { k with arrays := k.arrays ++ [name, parameter].filter (!k.arrays.contains ·) }
    | _, _ => k) k

def settled (parameters : List (Octets × List Octets)) : (fuel : Nat) → Kinds → Kinds
  | 0, k => k
  | fuel + 1, k => settled parameters fuel (k.once parameters)

def settle (k : Kinds) (parameters : List (Octets × List Octets)) : Kinds :=
  k.settled parameters (k.passed.length + 1)

def mismatch? (k : Kinds) (parameters : List (Octets × List Octets)) (p : Passed) :
    Option (String × String) :=
  match p.name, parameter? parameters p with
  | some name, some parameter =>
    if !k.arrays.contains name then none
    else if k.scalars.contains parameter then some ("array", "variable")
    else if k.scalars.contains name then some ("variable", "array")
    else none
  | none, some parameter =>
    if k.arrays.contains parameter then some ("variable", "array") else none
  | _, none => none

end Kinds
end SvelteTransform.Sandbox.Awk
