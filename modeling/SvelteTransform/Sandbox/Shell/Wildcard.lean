import SvelteTransform.Sandbox.Pattern
import SvelteTransform.Sandbox.Regex

/-! Patterns with alternatives between parentheses: how often one of them may come is told by the
character before. -/
namespace SvelteTransform.Sandbox.Shell

inductive Wildcard where
  | atom (atom : Pattern.Atom)
  | group (kind : Char) (choices : List (List Wildcard))

namespace Wildcard

structure Manner where
  extended : Bool := true
  folds : Bool := false
  showsHidden : Bool := false
  descends : Bool := false

def isKind (c : Char) : Bool := c = '?' || c = '*' || c = '+' || c = '@' || c = '!'

mutual
def sequence (extended : Bool) : (fuel : Nat) → (inside : Bool) → List Marked →
    List Wildcard × List Marked
  | 0, _, rest => ([], rest)
  | _, _, [] => ([], [])
  | fuel + 1, inside, (c, active) :: rest =>
    if inside && active && (c = ')' || c = '|') then ([], (c, active) :: rest)
    else
      let group := match rest with
        | ('(', true) :: rest =>
          if extended && active && isKind c then choices extended fuel rest else none
        | _ => none
      match group with
      | some (found, rest) =>
        let (more, rest) := sequence extended fuel inside rest
        (.group c found :: more, rest)
      | none =>
        let (first, rest) := Pattern.atomOf c active rest
        let (more, rest) := sequence extended fuel inside rest
        (.atom first :: more, rest)

def choices (extended : Bool) : (fuel : Nat) → List Marked →
    Option (List (List Wildcard) × List Marked)
  | 0, _ => none
  | fuel + 1, text =>
    let (first, rest) := sequence extended fuel true text
    match rest with
    | (')', _) :: rest => some ([first], rest)
    | ('|', _) :: rest => (choices extended fuel rest).map fun (more, rest) => (first :: more, rest)
    | _ => none
end

def ofMarked (m : Manner) (text : List Marked) : List Wildcard :=
  (sequence m.extended (2 * text.length + 2) false text).1

def accepts (m : Manner) (a : Pattern.Atom) (c : Char) : Bool :=
  a.accepts c || (m.folds && a.accepts (Regex.otherCase c))

def tails : Octets → List Octets
  | [] => [[]]
  | c :: rest => (c :: rest) :: tails rest

def ordered (rests : List Octets) : List Octets :=
  match rests with
  | [] | [_] => rests
  | rests =>
    let sorted := rests.mergeSort fun a b => b.length ≤ a.length
    sorted.foldr (fun rest kept => match kept with
      | next :: _ => if next.length = rest.length then kept else rest :: kept
      | [] => [rest]) []

mutual
def rests (m : Manner) : (fuel : Nat) → List Wildcard → List Octets → List Octets
  | 0, _, _ => []
  | _, _, [] => []
  | _, [], texts => texts
  | fuel + 1, first :: more, texts => rests m fuel more (restsOfOne m fuel first texts)

def restsOfOne (m : Manner) : (fuel : Nat) → Wildcard → List Octets → List Octets
  | 0, _, _ => []
  | fuel + 1, first, texts =>
    match first with
    | .atom .many => tails (texts.headD [])
    | .atom one => texts.filterMap fun text => match text with
      | c :: rest => if accepts m one c then some rest else none
      | [] => none
    | .group kind choices =>
      let once (texts : List Octets) : List Octets :=
        ordered (choices.flatMap fun choice => rests m fuel choice texts)
      if kind = '@' then once texts
      else if kind = '?' then ordered (texts ++ once texts)
      else if kind = '+' then repeated m fuel choices (once texts) []
      else if kind = '*' then repeated m fuel choices texts []
      else ordered (texts.flatMap fun text =>
        let covered := once [text]
        (tails text).filter fun rest => !covered.any (·.length = rest.length))

def repeated (m : Manner) : (fuel : Nat) → List (List Wildcard) → (texts seen : List Octets) →
    List Octets
  | 0, _, _, seen => ordered seen
  | _, _, [], seen => ordered seen
  | fuel + 1, choices, texts, seen =>
    let found := choices.flatMap fun choice => rests m fuel choice texts
    let seen := texts ++ seen
    let isNew (rest : Octets) : Bool := !seen.any (·.length = rest.length)
    repeated m fuel choices (ordered (found.filter isNew)) seen
end

def restsOf (m : Manner) (p : List Wildcard) (text : Octets) : List Octets :=
  rests m (p.length + 4 * text.length + 64) p [text]

def covers (m : Manner) (p : List Wildcard) (text : Octets) : Bool :=
  (restsOf m p text).any (· = [])

def dropFront (m : Manner) (p : List Wildcard) (longest : Bool) (text : Octets) : Octets :=
  let found := restsOf m p text
  (if longest then found.getLast? else found.head?).getD text

def dropBack (m : Manner) (p : List Wildcard) (longest : Bool) (text : Octets) : Octets :=
  let ends := tails text
  match (if longest then ends else ends.reverse).find? (covers m p) with
  | some covered => text.take (text.length - covered.length)
  | none => text

def replaceFrom (m : Manner) (p : List Wildcard) (everywhere : Bool)
    (replacement : Octets → Octets) : (fuel : Nat) → Octets → Octets
  | 0, text => text
  | _, [] => []
  | fuel + 1, c :: text =>
    match (restsOf m p (c :: text)).getLast? with
    | some rest =>
      let covered := (c :: text).take (text.length + 1 - rest.length)
      if covered = [] then c :: replaceFrom m p everywhere replacement fuel text
      else replacement covered ++
        if everywhere then replaceFrom m p everywhere replacement fuel rest else rest
    | none => c :: replaceFrom m p everywhere replacement fuel text

def replaceFront (m : Manner) (p : List Wildcard) (replacement : Octets → Octets)
    (text : Octets) : Octets :=
  match (restsOf m p text).getLast? with
  | some rest => replacement (text.take (text.length - rest.length)) ++ rest
  | none => text

def replaceBack (m : Manner) (p : List Wildcard) (replacement : Octets → Octets)
    (text : Octets) : Octets :=
  match (tails text).find? (covers m p) with
  | some covered => text.take (text.length - covered.length) ++ replacement covered
  | none => text

def isSpecial (m : Manner) : List Marked → Bool
  | [] => false
  | (c, active) :: rest =>
    (active && (c = '*' || c = '?' || c = '[' ||
      (m.extended && isKind c && rest.head? = some ('(', true)))) || isSpecial m rest

def descents (files : Files) (m : Manner) : (fuel : Nat) → Inode → Octets → List Octets
  | 0, _, _ => []
  | fuel + 1, directory, begun =>
    let inside := (files.children directory).filterMap fun (name, inode) =>
      let name := Octets.ofText name
      if files.node? inode = some .directory && (m.showsHidden || name.head? != some '.') then
        some (begun ++ name ++ ['/'], inode)
      else none
    begun :: inside.flatMap fun (path, inode) => descents files m fuel inode path

def paths (files : Files) (here : Inode) (m : Manner) :
    (fuel : Nat) → Octets → List (List Marked) → List Octets
  | 0, _, _ => []
  | _, begun, [] => if Pattern.isThere files here begun then [begun] else []
  | fuel + 1, begun, segment :: rest =>
    let goOn (name : Octets) : List Octets :=
      if rest = [] then paths files here m fuel (begun ++ name) rest
      else paths files here m fuel (begun ++ name ++ ['/']) rest
    let isDeep := m.descends && segment = [('*', true), ('*', true)]
    if !isSpecial m segment then goOn (segment.map (·.1))
    else match Pattern.directory? files here begun with
      | none => []
      | some directory =>
        let pattern := ofMarked m segment
        let names := (files.names directory).map Octets.ofText
        let isShown (name : Octets) : Bool :=
          name.head? != some '.' || m.showsHidden || segment.head?.any (·.1 = '.')
        let found := (names.filter fun name => isShown name && covers m pattern name)
        if isDeep then
          let places := descents files m 64 directory begun
          if rest = [] then
            places.flatMap fun place =>
              (if place = [] || place = begun then [] else [place.dropLast]) ++
              match Pattern.directory? files here place with
              | none => []
              | some directory =>
                (((files.children directory).filter fun (_, inode) =>
                  files.node? inode != some .directory).map fun (name, _) =>
                    place ++ Octets.ofText name).filter fun path =>
                      isShown (path.drop place.length)
          else places.flatMap fun place => paths files here m fuel place rest
        else found.flatMap goOn

def expand? (files : Files) (here : Inode) (m : Manner) (text : List Marked) :
    Option (List Octets) :=
  if !isSpecial m text then none
  else
    let segments := Pattern.segments text
    some ((paths files here m (segments.length + 1) [] segments).mergeSort
      fun a b => !(b < a : Bool))

end Wildcard
end SvelteTransform.Sandbox.Shell
