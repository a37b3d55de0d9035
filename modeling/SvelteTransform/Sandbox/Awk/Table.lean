import SvelteTransform.Sandbox.Awk.Value

/-! Arrays. A loop meets the entries by the place that a digest of their keys gives them, and at
one place those first that were used last. Entries that have only been known by a number get their
place when a text is looked for. -/
namespace SvelteTransform.Sandbox.Awk

inductive Key where
  | number (n : Int)
  | text (t : Octets)
  deriving DecidableEq, Repr

def Key.toText : Key → Octets
  | .number n => Octets.ofInt n
  | .text t => t

def Value.key (format : Octets) (v : Value) : Key :=
  match v with
  | .number x =>
    if isWhole x && Numeral.fits (whole x) then .number (whole x)
    else .text (numberText format x)
  | v => .text (v.toText format)

structure Table where
  cells : List (Octets × Value) := []
  texts : List Octets := []
  numbers : List Int := []
  isByText : Bool := false
  isRow : Bool := false
  deriving Inhabited

namespace Table

def size (t : Table) : Nat := t.cells.length

def digest (key : Octets) : Nat :=
  (key.foldl (fun (h : UInt32) c => (h ^^^ c.toNat.toUInt32) * 16777619) 2166136261).toNat

def places (size : Nat) : (fuel : Nat) → Nat → Nat
  | 0, count => count
  | fuel + 1, count => if size ≤ 12 * count then count else places size fuel (2 * count)

def placeCount (t : Table) : Nat := places t.size t.size 64

def byPlace {α : Type} (count : Nat) (place : α → Nat) (members : List α) : List α :=
  ((members.map fun a => (place a % count, a)).mergeSort fun a b => a.1 ≤ b.1).map (·.2)

def byText (t : Table) : Table :=
  if t.isByText then t
  else
    let count := t.placeCount
    let inOrder := byPlace count (fun n : Int => (n % count).toNat) t.numbers
    let new := (inOrder.map Octets.ofInt).filter fun key => !t.texts.contains key
    { t with texts := new.reverse ++ t.texts, isByText := true, isRow := false }

def front {α : Type} [BEq α] (a : α) (members : List α) : List α :=
  if members.head? == some a then members else a :: members.filter (· != a)

def find (t : Table) (key : Key) : Option Value × Table :=
  let found := t.cells.lookup key.toText
  match key, found with
  | .text _, none => (none, if t.cells.isEmpty then t else t.byText)
  | .number _, none => (none, t)
  | .text text, some v =>
    let t := t.byText
    (some v, { t with texts := front text t.texts })
  | .number n, some v =>
    if t.isRow then (some v, t)
    else if t.numbers.contains n then (some v, { t with numbers := front n t.numbers })
    else (some v, { t with texts := front key.toText t.texts, numbers := n :: t.numbers })

def insert (t : Table) (key : Key) (v : Value) : Table :=
  let text := key.toText
  if (t.cells.lookup text).isSome then
    { t with cells := t.cells.map fun (k, old) => (k, if k = text then v else old) }
  else
    let cells := (text, v) :: t.cells
    match key with
    | .text text =>
      let t := t.byText
      { t with cells, texts := text :: t.texts }
    | .number n =>
      { t with
        cells, isRow := false, numbers := n :: t.numbers
        texts := if t.isByText then text :: t.texts else t.texts }

def get (t : Table) (key : Key) : Value × Table :=
  match t.find key with
  | (some v, t) => (v, t)
  | (none, t) => (.unset, t.insert key .unset)

def erase (t : Table) (key : Key) : Table :=
  let text := key.toText
  if (t.cells.lookup text).isNone then t
  else if t.size ≤ 1 then {}
  else
    let isLast := key = .number t.size
    { t with
      cells := t.cells.filter (·.1 != text)
      texts := t.texts.filter (· != text)
      numbers := t.numbers.filter fun n => Octets.ofInt n != text
      isRow := t.isRow && isLast }

def keys (t : Table) : List Octets × Table :=
  let t := t.byText
  (byPlace t.placeCount digest t.texts, t)

def ofList (values : List Value) : Table :=
  let numbers := (List.range values.length).map fun n : Nat => (n : Int) + 1
  { cells := (numbers.map Octets.ofInt).zip values, numbers := numbers.reverse, isRow := true }

end Table
end SvelteTransform.Sandbox.Awk
