import SvelteTransform.Search.Basic
import SvelteTransform.Search.Utf8
import Std.Data.HashMap

/-! How much memory a machine takes that looks for an expression: its states, one after another for
each byte of a match. Two are built, one for each direction, and an expression for which either
gets too large is refused. -/
namespace SvelteTransform.Search

inductive Direction where
  | forward
  | backward
  deriving DecidableEq, Repr

namespace Budget

def state : Nat := 32

def ranges (count : Nat) : Nat := state + 8 * count

def fork (count : Nat) : Nat := state + 4 * count

structure Shared where
  numbers : Std.HashMap (List (ByteRange × Nat)) Nat := {}
  total : Nat := 0

def Shared.number (ways : List (ByteRange × Nat)) (s : Shared) : Nat × Shared :=
  match s.numbers[ways]? with
  | some n => (n, s)
  | none =>
    let n := s.numbers.size + 1
    (n, ⟨s.numbers.insert ways n, s.total + ranges ways.length⟩)

def shared : (length : Nat) → List (List ByteRange) → Shared → Nat × Shared
  | 0, _, s => (0, s)
  | length + 1, sequences, s =>
    if sequences.all List.isEmpty then (0, s)
    else
      let starts := sequences.splitBy fun a b => a.head? == b.head?
      let (ways, s) := starts.foldr (fun group (ways, s) =>
        let (next, s) := shared length (group.map List.tail) s
        (((group.head?.bind List.head?).getD (0, 0), next) :: ways, s)) ([], s)
      s.number ways

def beginnings (before : List ByteRange) : List (List ByteRange) → Nat
  | [] => 0
  | sequence :: rest =>
    let same := ((before.zip sequence).takeWhile fun (a, b) => a == b).length
    sequence.length - same + beginnings sequence rest

def set (d : Direction) (s : Characters) : Nat :=
  if s.isAscii then state + ranges s.ranges.length
  else
    let sequences := s.byteSequences
    match d with
    | .forward => state + (shared 4 sequences {}).2.total
    | .backward => state + fork sequences.length + state * beginnings [] sequences

def segments (texts : List (List UInt8)) : List (List (List UInt8)) :=
  let rest := texts.dropWhile List.isEmpty
  let cut := rest.splitOnP List.isEmpty
  if rest.length < texts.length then [] :: cut else cut

def tree : (length : Nat) → List (List UInt8) → Nat
  | 0, _ => 0
  | length + 1, texts =>
    if texts.all List.isEmpty then 0
    else
      let segments := segments texts
      let each := segments.map fun segment =>
        let bytes := (segment.filterMap List.head?).eraseDups
        let own := if bytes.length ≤ 1 then state * bytes.length else ranges bytes.length
        bytes.foldl (fun sum b =>
          let below := segment.filter fun text => text.head? == some b
          sum + tree length (below.map List.tail)) own
      let filled := (segments.filter fun segment => !segment.isEmpty).length
      fork (filled + segments.length - 1) + each.foldl (· + ·) 0

def texts (d : Direction) (all : List (List Char)) : Nat :=
  let bytes := all.map fun text => text.flatMap String.utf8EncodeChar
  let bytes := match d with
    | .forward => bytes
    | .backward => bytes.map List.reverse
  state + tree ((bytes.map List.length).foldl max 0 + 1) bytes

def repetition (inside : Nat) (mayBeEmpty : Bool) (least : Nat) (most : Option Nat) : Nat :=
  match least, most with
  | 0, some 1 => fork 2 + inside + state
  | 0, none => if mayBeEmpty then 2 * fork 2 + inside + state else fork 2 + inside
  | least, none => least * inside + fork 2
  | least, some most =>
    let fixed := if least = 0 then state else least * inside
    if least = most then fixed else fixed + state + (most - least) * (fork 2 + inside)

end Budget

namespace Expression

def texts? (e : Expression) : Option (List (List Char)) :=
  (branches e).mapM fun
    | .letters text => some text
    | _ => none

def memory (d : Direction) : (remains : Bool) → Expression → Nat
  | remains, .either first second =>
    let both := 4 + memory d false first + memory d true second
    if remains then both
    else match (either first second).texts? with
      | some texts => Budget.texts d texts
      | none => 2 * Budget.state + both
  | remains, .empty | remains, .condition _ => way remains + Budget.state
  | remains, .letters text =>
    way remains + Budget.state * (text.foldl (fun n c => n + c.utf8Size) 0)
  | remains, .one set => way remains + Budget.set d set
  | remains, .many inside least most _ =>
    let mayBeEmpty := inside.leastLength?.all (· = 0)
    way remains + Budget.repetition (memory d false inside) mayBeEmpty least most
  | remains, .group _ inside =>
    let signs := match d with
      | .forward => 2 * Budget.state
      | .backward => 0
    way remains + signs + memory d false inside
  | remains, .both first second => way remains + memory d false first + memory d false second
where
  way (remains : Bool) : Nat := if remains then 4 else 0

def isAnchored (d : Direction) : Expression → Bool
  | .condition .textStart => d = .forward
  | .condition .textEnd => d = .backward
  | .many inside least _ _ => least ≠ 0 && isAnchored d inside
  | .group _ inside => isAnchored d inside
  | .both first second =>
    match d with
    | .forward => isAnchored d first || (first.isWeightless && isAnchored d second)
    | .backward => isAnchored d second || (second.isWeightless && isAnchored d first)
  | .either first second => isAnchored d first && isAnchored d second
  | .empty | .letters _ | .one _ | .condition _ => false

def machineMemory (d : Direction) (e : Expression) : Nat :=
  let anywhere := if e.isAnchored d then Budget.state
    else Budget.fork 2 + Budget.state + Budget.ranges 1
  anywhere + (Expression.group 0 e).memory d false + Budget.state

def memoryLimit : Nat := 10 * 1024 * 1024

def fits (e : Expression) : Bool :=
  e.machineMemory .forward ≤ memoryLimit && e.machineMemory .backward ≤ memoryLimit

def asksForWords : Expression → Bool
  | .condition (.word _ ascii) => !ascii
  | .empty | .letters _ | .one _ | .condition _ => false
  | .many inside _ _ _ | .group _ inside => asksForWords inside
  | .both first second | .either first second => asksForWords first || asksForWords second

end Expression
end SvelteTransform.Search
