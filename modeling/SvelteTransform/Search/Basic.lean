import SvelteTransform.Search.Characters

/-! Expressions to search a text for, and the constructors that bring them into a plain form:
sequences and alternatives without others of their kind in front, letters in a row as one text,
one of several letters as a set, and nothing that is repeated once or never. -/
namespace SvelteTransform.Search

inductive WordEdge where
  | edge
  | inside
  | start
  | ending
  | startHalf
  | endHalf
  deriving DecidableEq, Repr

namespace WordEdge

def accepts : WordEdge → (before after : Bool) → Bool
  | .edge, before, after => before != after
  | .inside, before, after => before == after
  | .start, before, after => !before && after
  | .ending, before, after => before && !after
  | .startHalf, before, _ => !before
  | .endHalf, _, after => !after

end WordEdge

inductive Condition where
  | textStart
  | textEnd
  | lineStart (returns : Bool)
  | lineEnd (returns : Bool)
  | word (place : WordEdge) (ascii : Bool)
  deriving DecidableEq, Repr

inductive Expression where
  | empty
  | letters (text : List Char)
  | one (set : Characters)
  | condition (what : Condition)
  | many (inside : Expression) (least : Nat) (most : Option Nat) (greedy : Bool)
  | group (number : Nat) (inside : Expression)
  | both (first second : Expression)
  | either (first second : Expression)
  deriving DecidableEq, Repr

namespace Expression

def leastLength? : Expression → Option Nat
  | .empty | .condition _ => some 0
  | .letters text => some text.length
  | .one set => if set.isEmpty then none else some 1
  | .many inside least _ _ => (leastLength? inside).map (· * least)
  | .group _ inside => leastLength? inside
  | .both first second => do return (← leastLength? first) + (← leastLength? second)
  | .either first second => do return min (← leastLength? first) (← leastLength? second)

def isWeightless : Expression → Bool
  | .empty | .condition _ => true
  | .letters _ | .one _ => false
  | .many inside _ _ _ | .group _ inside => isWeightless inside
  | .both first second | .either first second => isWeightless first && isWeightless second

def ofSet (set : Characters) : Expression :=
  match set.only? with
  | some c => .letters [c]
  | none => .one set

def repeated (inside : Expression) (least : Nat) (most : Option Nat) (greedy : Bool) : Expression :=
  let (least, most) :=
    if inside.isWeightless then (min least 1, some (min (most.getD 1) 1)) else (least, most)
  if most = some 0 then .empty
  else if least = 1 ∧ most = some 1 then inside
  else .many inside least most greedy

def parts : Expression → List Expression
  | .empty => []
  | .both first second => first :: parts second
  | e => [e]

def merged : List Expression → List Expression
  | [] => []
  | .letters text :: rest =>
    match merged rest with
    | .letters more :: rest => .letters (text ++ more) :: rest
    | rest => .letters text :: rest
  | e :: rest => e :: merged rest

def chained : List Expression → Expression
  | [] => .empty
  | [e] => e
  | e :: rest => .both e (chained rest)

def sequence (items : List Expression) : Expression := chained (merged (items.flatMap parts))

def branches : Expression → List Expression
  | .either first second => first :: branches second
  | e => [e]

def choice : List Expression → Expression
  | [] => .one .none
  | [e] => e
  | e :: rest => .either e (choice rest)

def letter? : Expression → Option Char
  | .letters [c] => some c
  | _ => none

def set? : Expression → Option Characters
  | .one set => some set
  | _ => none

def shared : List Expression → List Expression → List Expression
  | a :: as, b :: bs => if a = b then a :: shared as bs else []
  | _, _ => []

def sequence? : Expression → Option (List Expression)
  | .both first second => some (first :: parts second)
  | _ => none

def factored (fuel : Nat) (items : List Expression) : Expression :=
  match items.flatMap branches with
  | [] => .one .none
  | [e] => e
  | first :: rest =>
    let all := first :: rest
    match all.mapM letter?, all.mapM set?, all.mapM sequence?, fuel with
    | some singles, _, _, _ => ofSet (.ofRanges (singles.map fun c => (c, c)))
    | none, some sets, _, _ => ofSet (.ofNumbers (sets.flatMap Characters.ranges))
    | none, none, some (items :: more), fuel + 1 =>
      let front := more.foldl shared items
      if front.isEmpty then choice all
      else
        let tails := (items :: more).map fun items => sequence (items.drop front.length)
        sequence (front ++ [factored fuel tails])
    | _, _, _, _ => choice all

def size : Expression → Nat
  | .empty | .letters _ | .one _ | .condition _ => 1
  | .many inside _ _ _ | .group _ inside => size inside + 1
  | .both first second | .either first second => size first + size second + 1

def alternatives (items : List Expression) : Expression :=
  factored ((items.map size).foldl max 0) items

end Expression
end SvelteTransform.Search
