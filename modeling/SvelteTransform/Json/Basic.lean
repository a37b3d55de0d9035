import SvelteTransform.Json.Fields
import SvelteTransform.Decimal.Shortest

/-! JSON values. Whole numbers stay whole within 64 bits, where `negative n` is the number below
zero by `n`; every other number is binary. The members of an object are kept in key order, each key
once; `Ordered` says so at every depth, and values that are read or built here have it. -/
namespace SvelteTransform

inductive Number where
  | natural (n : Nat) (fits : n < UInt64.size)
  | negative (n : Nat) (fits : 0 < n ∧ n ≤ UInt64.size / 2)
  | real (x : Float) (finite : x.isFinite = true)
  deriving DecidableEq

inductive Json where
  | null
  | boolean (b : Bool)
  | number (n : Number)
  | string (s : String)
  | array (items : List Json)
  | object (members : List (String × Json))

namespace Json

instance : Inhabited Json := ⟨.null⟩

mutual
def same : Json → Json → Bool
  | .null, .null => true
  | .boolean a, .boolean b => a = b
  | .number a, .number b => a = b
  | .string a, .string b => a = b
  | .array a, .array b => sameItems a b
  | .object a, .object b => sameMembers a b
  | _, _ => false
def sameItems : List Json → List Json → Bool
  | [], [] => true
  | a :: as, b :: bs => same a b && sameItems as bs
  | _, _ => false
def sameMembers : List (String × Json) → List (String × Json) → Bool
  | [], [] => true
  | (k, a) :: as, (l, b) :: bs => k = l && same a b && sameMembers as bs
  | _, _ => false
end

mutual
theorem same_iff : (a b : Json) → (same a b = true ↔ a = b)
  | .null, b => by cases b <;> simp [same]
  | .boolean _, b => by cases b <;> simp [same]
  | .number _, b => by cases b <;> simp [same]
  | .string _, b => by cases b <;> simp [same]
  | .array xs, b => by cases b <;> simp [same, sameItems_iff xs]
  | .object xs, b => by cases b <;> simp [same, sameMembers_iff xs]
theorem sameItems_iff : (a b : List Json) → (sameItems a b = true ↔ a = b)
  | [], b => by cases b <;> simp [sameItems]
  | x :: xs, b => by cases b <;> simp [sameItems, same_iff x, sameItems_iff xs]
theorem sameMembers_iff : (a b : List (String × Json)) → (sameMembers a b = true ↔ a = b)
  | [], b => by cases b <;> simp [sameMembers]
  | (k, x) :: xs, b => by
    cases b <;> simp [sameMembers, same_iff x, sameMembers_iff xs, Prod.ext_iff]
end

instance : DecidableEq Json := fun a b => decidable_of_iff _ (same_iff a b)

def get? (key : String) : Json → Option Json
  | .object members => Fields.get? members key
  | _ => none

def ofNat (n : Nat) (fits : n < UInt64.size := by decide) : Json := .number (.natural n fits)

mutual
def nesting : Json → Nat
  | .array items => nestingItems items + 1
  | .object members => nestingMembers members + 1
  | _ => 0
def nestingItems : List Json → Nat
  | [] => 0
  | v :: rest => max (nesting v) (nestingItems rest)
def nestingMembers : List (String × Json) → Nat
  | [] => 0
  | (_, v) :: rest => max (nesting v) (nestingMembers rest)
end

mutual
def isWhole : Json → Bool
  | .number (.real ..) => false
  | .array items => areWhole items
  | .object members => membersWhole members
  | _ => true
def areWhole : List Json → Bool
  | [] => true
  | v :: rest => isWhole v && areWhole rest
def membersWhole : List (String × Json) → Bool
  | [] => true
  | (_, v) :: rest => isWhole v && membersWhole rest
end

mutual
def Ordered : Json → Prop
  | .array items => OrderedItems items
  | .object members => Fields.Ordered members ∧ OrderedMembers members
  | _ => True
def OrderedItems : List Json → Prop
  | [] => True
  | v :: rest => Ordered v ∧ OrderedItems rest
def OrderedMembers : List (String × Json) → Prop
  | [] => True
  | (_, v) :: rest => Ordered v ∧ OrderedMembers rest
end

def isTruthy : Json → Bool
  | .null => false
  | .boolean b => b
  | .number (.natural n _) => n != 0
  | .number (.negative ..) => true
  | .number (.real x _) => x != 0.0
  | .string s => s != ""
  | .array _ => true
  | .object _ => true

end Json
end SvelteTransform
