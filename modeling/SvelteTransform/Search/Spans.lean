import SvelteTransform.Search.Basic

/-! Whether an expression is found in a text. Only that counts, not which match is preferred; so an
expression stands for the lengths of its matches from each place of the text, which are kept as the
bits of a number. -/
namespace SvelteTransform.Search

abbrev Lengths := Nat

abbrev Spans := List Lengths

namespace Spans

def onward (lengths : Lengths) : Spans → Lengths
  | [] => 0
  | further :: rest =>
    if lengths = 0 then 0
    else 2 * onward (lengths / 2) rest ||| (if lengths % 2 = 1 then further else 0)

def follow : Spans → Spans → Spans
  | first :: s, second :: t => onward first (second :: t) :: follow s t
  | _, _ => []

def union (s t : Spans) : Spans := s.zipWith (· ||| ·) t

def nothing (text : List Char) : Spans := List.replicate (text.length + 1) 1

def power (text : List Char) (s : Spans) (n : Nat) : Spans :=
  if n = 0 then nothing text
  else
    let half := power text s (n / 2)
    let twice := half.follow half
    if n % 2 = 1 then twice.follow s else twice
termination_by n

def star : Spans → Spans
  | [] => []
  | lengths :: rest =>
    let behind := star rest
    (2 * onward (lengths / 2) behind ||| 1) :: behind

def ofPlaces (lengths : Option Char → List Char → Lengths) : Option Char → List Char → Spans
  | before, [] => [lengths before []]
  | before, c :: rest => lengths before (c :: rest) :: ofPlaces lengths (some c) rest

end Spans

namespace Condition

def isWord : Option Char → Bool
  | some c => Characters.word.holds c
  | none => false

def holds (before : Option Char) (rest : List Char) : Condition → Bool
  | .textStart => before.isNone
  | .textEnd => rest.isEmpty
  | .lineStart false => before.isNone || before = some '\n'
  | .lineStart true => before.isNone || before = some '\n' ||
      (before = some '\r' && rest.head? != some '\n')
  | .lineEnd false => rest.isEmpty || rest.head? = some '\n'
  | .lineEnd true => rest.isEmpty || rest.head? = some '\r' ||
      (rest.head? = some '\n' && before != some '\r')
  | .word place _ => place.accepts (isWord before) (isWord rest.head?)

end Condition

namespace Expression

def spans (text : List Char) : Expression → Spans
  | .empty => Spans.nothing text
  | .letters wanted => Spans.ofPlaces (fun _ rest =>
      if wanted.isPrefixOf rest then Nat.shiftLeft 1 wanted.length else 0) none text
  | .one set => Spans.ofPlaces (fun _ rest => if rest.head?.any set.holds then 2 else 0) none text
  | .condition what => Spans.ofPlaces (fun before rest => (what.holds before rest).toNat) none text
  | .many inside least most _ =>
    let once := spans text inside
    let further := match most with
      | some most => Spans.power text (once.union (Spans.nothing text)) (most - least)
      | none => once.star
    (Spans.power text once least).follow further
  | .group _ inside => spans text inside
  | .both first second => (spans text first).follow (spans text second)
  | .either first second => (spans text first).union (spans text second)

def isFound (e : Expression) (text : String) : Bool := (e.spans text.toList).any (· != 0)

end Expression
end SvelteTransform.Search
