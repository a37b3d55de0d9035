import SvelteTransform.Sandbox.Pattern
import SvelteTransform.Sandbox.Tools.Printf
import SvelteTransform.Sandbox.Tools.Text

/-! Characters that are replaced, taken out, or kept only once in a row. Sets of them are written with
ranges, classes and repetitions; their order tells what is replaced by what. -/
namespace SvelteTransform.Sandbox.Tools

namespace CharacterSets

def classMembers? (name : Octets) : Option Octets := do
  let set : CharacterSet := ⟨false, ← CharacterSet.named? name⟩
  return ((List.range 256).map Char.ofNat).filter set.holds

structure Written where
  character : Char
  escaped : Bool := false

def Written.is (w : Written) (c : Char) : Bool := w.character = c && !w.escaped

def unescaped : (fuel : Nat) → Octets → List Written × List Octets
  | fuel + 1, '\\' :: rest =>
    let goOn (w : Written) (rest : Octets) (warnings : List Octets) : List Written × List Octets :=
      let (more, later) := unescaped fuel rest
      (w :: more, warnings ++ later)
    match rest with
    | [] => ([⟨'\\', false⟩],
        [Octets.say "warning: an unescaped backslash at end of string is not portable"])
    | c :: more =>
      let digits := (rest.take 3).takeWhile Printf.isOctal
      if digits != [] then
        let value := Numeral.valueOf 8 digits
        if value < 256 then goOn ⟨Octets.byte value, true⟩ (rest.drop digits.length) []
        else
          let short := digits.take 2
          goOn ⟨Octets.byte (Numeral.valueOf 8 short), true⟩ (rest.drop 2)
            [Octets.say "warning: the ambiguous octal escape \\" ++ digits ++
              Octets.say " is being\n\tinterpreted as the 2-byte sequence \\0" ++ short ++
              Octets.say ", " ++ digits.drop 2]
      else
        let sign := match Printf.escape rest with
          | ([found], _) => if found = '\\' || c = 'e' then c else found
          | _ => c
        goOn ⟨sign, true⟩ more []
  | fuel + 1, c :: rest =>
    let (more, later) := unescaped fuel rest
    (⟨c, false⟩ :: more, later)
  | _, _ => ([], [])

inductive Item where
  | single (c : Char)
  | range (low high : Char)
  | named (name members : Octets)
  | alike (c : Char)
  | repeated (c : Char) (count : Option Nat)

def Item.isCase : Item → Bool
  | .named name _ => name = "upper".toList || name = "lower".toList
  | _ => false

def Item.members (room : Nat) : Item → Octets
  | .single c | .alike c => [c]
  | .range low high =>
    (List.range (high.toNat + 1 - low.toNat)).map fun i => Char.ofNat (low.toNat + i)
  | .named _ members => members
  | .repeated c count => List.replicate (count.getD room) c

def shownCharacter (c : Char) : Octets :=
  if ' ' ≤ c && c ≤ '~' then [c] else '\\' :: padZeros (Nat.toDigits 8 c.toNat)
where
  padZeros (digits : Octets) : Octets := List.replicate (3 - digits.length) '0' ++ digits

def text (ws : List Written) : Octets := ws.map (·.character)

def upToMark (mark : Char) : List Written → Option (List Written × List Written)
  | a :: b :: rest =>
    if a.is mark && b.is ']' then some ([], rest)
    else (upToMark mark (b :: rest)).map fun (inside, rest) => (a :: inside, rest)
  | _ => none

def repetition? (ws : List Written) : Option (Except Octets (Item × List Written)) :=
  match ws with
  | c :: star :: rest =>
    if !star.is '*' then none
    else
      let count := rest.takeWhile fun w => !w.escaped && w.character != ']'
      match rest.drop count.length with
      | close :: rest =>
        if !close.is ']' then none
        else
          let digits := text count
          let base := if digits.head? = some '0' then 8 else 10
          let isRight := digits.all fun c => if base = 8 then Printf.isOctal c else Octets.isDigit c
          if digits = [] then some (.ok (.repeated c.character none, rest))
          else if isRight then
            let n := Numeral.valueOf base digits
            some (.ok (.repeated c.character (if n = 0 then none else some n), rest))
          else some (.error (Octets.say "invalid repeat count " ++ quoted digits ++
            Octets.say " in [c*n] construct"))
      | [] => none
  | _ => none

def named? (ws : List Written) : Option (Except Octets (Item × List Written)) :=
  match ws with
  | mark :: rest =>
    if !(mark.is ':' || mark.is '=') then none
    else match upToMark mark.character rest with
      | none => none
      | some (inside, rest) =>
        let isClass := mark.character = ':'
        match inside, classMembers? (text inside) with
        | [], _ => some (.error (Octets.say (if isClass then "missing character class name '[::]'"
            else "missing equivalence class character '[==]'")))
        | inside, some members =>
          if isClass then some (.ok (.named (text inside) members, rest))
          else some (.error (text inside ++ Octets.say
            ": equivalence class operand must be a single character"))
        | [c], none =>
          if isClass then some (.error (Octets.say "invalid character class " ++ quoted [c.character]))
          else some (.ok (.alike c.character, rest))
        | inside, none => some (.error (if isClass then
            Octets.say "invalid character class " ++ quoted (text inside)
          else text inside ++ Octets.say ": equivalence class operand must be a single character"))
  | [] => none

def items : (fuel : Nat) → List Written → Except Octets (List Item)
  | 0, _ | _, [] => .ok []
  | fuel + 1, w :: rest =>
    let goOn (found : Item × List Written) : Except Octets (List Item) := do
      return found.1 :: (← items fuel found.2)
    let plain : Except Octets (List Item) :=
      match rest with
      | dash :: last :: more =>
        if dash.is '-' then
          if last.character < w.character then
            .error (Octets.say "range-endpoints of '" ++ shownCharacter w.character ++ '-' ::
              shownCharacter last.character ++
              Octets.say "' are in reverse collating sequence order")
          else goOn (.range w.character last.character, more)
        else goOn (.single w.character, rest)
      | _ => goOn (.single w.character, rest)
    if w.is '[' && 2 ≤ rest.length then
      match named? rest with
      | some (.ok found) => goOn found
      | some (.error text) =>
        match repetition? rest with
        | some (.ok found) => goOn found
        | _ => .error text
      | none =>
        match repetition? rest with
        | some (.ok found) => goOn found
        | some (.error text) => .error text
        | none => plain
    else plain

structure Set where
  items : List Item
  warnings : List Octets

def Set.read (text : Octets) : Except (List Octets × Octets) Set :=
  let (written, warnings) := unescaped (text.length + 1) text
  match CharacterSets.items (written.length + 1) written with
  | .ok items => .ok ⟨items, warnings⟩
  | .error text => .error (warnings, text)

namespace Set

def indefinite (s : Set) : Nat := s.items.countP fun
  | .repeated _ none => true
  | _ => false

def members (s : Set) (room : Nat) : Octets :=
  let without := (s.items.map fun i => (i.members 0).length).foldl (· + ·) 0
  s.items.flatMap (Item.members (room - without))

def casePlaces (s : Set) (room : Nat) : List Nat :=
  let without := (s.items.map fun i => (i.members 0).length).foldl (· + ·) 0
  ((s.items.foldl (fun (found, place) item =>
    (if item.isCase then place :: found else found, place + (item.members (room - without)).length))
    (([] : List Nat), 0)).1).reverse

def hasOtherClass (s : Set) : Bool := s.items.any fun item => match item with
  | .named .. => !item.isCase
  | _ => false

end Set

def fault? (first : Octets) (a b : Set) (complemented truncates : Bool) : Option String :=
  let second := b.members first.length
  let aligned := complemented || (b.casePlaces first.length).all (a.casePlaces 0).contains
  if 1 < b.indefinite then some "only one [c*] repeat construct may appear in string2"
  else if b.items.any fun | .alike _ => true | _ => false then
    some "[=c=] expressions may not appear in string2 when translating"
  else if b.hasOtherClass then
    some "when translating, the only character classes that may appear in\nstring2 are 'upper' and 'lower'"
  else if !aligned then some "misaligned [:upper:] and/or [:lower:] construct"
  else if second.length < first.length && !truncates then
    if second = [] then some "when not truncating set1, string2 must be non-empty"
    else match b.items.getLast? with
      | some (.named ..) => some ("when translating with string1 longer than string2,\n" ++
          "the latter string must not end with a character class")
      | _ => none
  else none

def squeezed (set : Char → Bool) : (before : Option Char) → Octets → Octets
  | _, [] => []
  | before, c :: rest =>
    if before = some c && set c then squeezed set before rest
    else c :: squeezed set (some c) rest

end CharacterSets

open CharacterSets in
def tr (c : Call) : Running Unit :=
  let options : Options := {
    flags := "cCdst", mixed := false
    long := [("complement", 'c'), ("delete", 'd'), ("squeeze-repeats", 's'), ("truncate-set1", 't')] }
  withOptions c options fun given => do
    let deletes := given.has 'd'
    let squeezes := given.has 's'
    let complemented := given.has 'c' || given.has 'C'
    let least := if deletes = squeezes then 2 else 1
    let most := if deletes && !squeezes then 1 else 2
    let n := given.operands.length
    let hint (text : Octets) (explained : String) : Running Unit := do
      complain c text
      tell (Octets.say explained ++ Octets.say "Try '" ++ c.name ++
        Octets.say " --help' for more information.\n")
    let warned (warnings : List Octets) : Running Unit := do
      for text in warnings do tell (c.name ++ Octets.say ": " ++ text ++ ['\n'])
    if n < least then
      match given.operands.getLast? with
      | none => missingOperand c
      | some last =>
        let explained := if squeezes then
            "Two strings must be given when both deleting and squeezing repeats.\n"
          else "Two strings must be given when translating.\n"
        hint (Octets.say "missing operand after " ++ quoted last) explained
    else if most < n then
      let explained := if n = 2 then
          "Only one string may be given when deleting without squeezing repeats.\n"
        else ""
      hint (Octets.say "extra operand " ++ quoted ((given.operands[most]?).getD [])) explained
    else
      let second := given.operands[1]?
      match Set.read (given.operands.headD []) with
      | .error (warnings, text) => do
        warned warnings
        complain c text
      | .ok a => do
        warned a.warnings
        match Set.read (second.getD []) with
        | .error (warnings, text) => do
          warned warnings
          complain c text
        | .ok b => do
          warned b.warnings
          let plain := a.members 0
          let isIn := ((List.range 256).map fun n => plain.contains (Char.ofNat n) != complemented).toArray
          let isFirst (c : Char) : Bool := isIn.getD c.toNat false
          let first := if complemented then ((List.range 256).map Char.ofNat).filter isFirst else plain
          let translates := second.isSome && !deletes
          if 0 < a.indefinite then
            complain c (Octets.say "the [c*] repeat construct may not appear in string1")
          else if !translates && 0 < b.indefinite then
            complain c (Octets.say "the [c*] construct may appear in string2 only when translating")
          else if let some text := if translates then fault? first a b complemented (given.has 't') else none then
            complain c (Octets.say text)
          else
            match ← readNamed c Files.endless ['-'] with
            | .error error => complainOf c ['-'] error
            | .ok text =>
              let members := b.members first.length
              let isSecond (c : Char) : Bool := members.contains c
              if deletes then
                let kept := text.filter (!isFirst ·)
                print (if squeezes then squeezed isSecond none kept else kept)
              else if !translates then print (squeezed isFirst none text)
              else
                let filled := if given.has 't' then members else
                  members ++ List.replicate (first.length - members.length) (members.getLast?.getD ' ')
                let table := (first.zip filled).foldl
                  (fun (table : Array Char) (old, new) => table.setIfInBounds old.toNat new)
                  ((List.range 256).map Char.ofNat).toArray
                let changed := text.map fun c => table.getD c.toNat c
                print (if squeezes then squeezed isSecond none changed else changed)

end SvelteTransform.Sandbox.Tools
