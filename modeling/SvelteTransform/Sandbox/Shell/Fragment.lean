import SvelteTransform.Sandbox.Pattern

/-! What words turn into: text with its quoting noted, cut into fields at separators. -/
namespace SvelteTransform.Sandbox.Shell

inductive Fragment where
  | text (text : Octets) (quoted splits : Bool)
  | boundary (joint : Octets)
  deriving DecidableEq, Repr

namespace Fragment

def plain : List Fragment → Octets
  | [] => []
  | .text t _ _ :: rest => t ++ plain rest
  | .boundary joint :: rest => joint ++ plain rest

def marked : List Fragment → List Marked
  | [] => []
  | .text t quoted _ :: rest => t.map (·, !quoted) ++ marked rest
  | .boundary _ :: rest => (' ', false) :: marked rest

structure Fields where
  done : List (List Marked) := []
  open_ : Option (List Marked) := none
  afterBlank : Bool := false

namespace Fields

def add (f : Fields) (c : Marked) : Fields :=
  { f with open_ := some (c :: f.open_.getD []), afterBlank := false }

def hold (f : Fields) : Fields := { f with open_ := some (f.open_.getD []), afterBlank := false }

def close (f : Fields) (blank : Bool) : Fields :=
  match f.open_ with
  | some field => { done := field :: f.done, open_ := none, afterBlank := blank }
  | none => f

def separate (f : Fields) (c : Char) : Fields :=
  if c = ' ' || c = '\t' || c = '\n' then f.close true
  else if f.open_.isNone && !f.afterBlank then { f with done := [] :: f.done }
  else { f.close false with afterBlank := false }

def character (separators : Octets) (splits active : Bool) (f : Fields) (c : Char) : Fields :=
  if splits && separators.contains c then f.separate c else f.add (c, active)

def fragment (separators : Octets) (f : Fields) : Fragment → Fields
  | .text t quoted splits =>
    let f := if quoted then f.hold else f
    t.foldl (character separators splits !quoted) f
  | .boundary _ => { f.close false with afterBlank := false }

end Fields

def fields (separators : Octets) (fragments : List Fragment) : List (List Marked) :=
  let f := (fragments.foldl (Fields.fragment separators) {}).close false
  (f.done.map List.reverse).reverse

end Fragment
end SvelteTransform.Sandbox.Shell
