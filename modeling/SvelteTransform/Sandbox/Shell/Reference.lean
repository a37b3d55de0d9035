import SvelteTransform.Sandbox.Shell.Fragment
import SvelteTransform.Sandbox.Shell.Quoting
import SvelteTransform.Sandbox.Shell.Store
import SvelteTransform.Sandbox.Shell.Wildcard

/-! References to variables and arrays, and what operators make of their values. -/
namespace SvelteTransform.Sandbox.Shell

namespace Items

def written : Items → Octets
  | .numbered items =>
    '(' :: [' '].intercalate (items.map fun (n, value) =>
      '[' :: Octets.ofInt n ++ ']' :: '=' :: Quoting.value value) ++ [')']
  | .keyed items =>
    '(' :: ((filed items).flatMap fun (key, value) =>
      '[' :: Quoting.key key ++ ']' :: '=' :: Quoting.value value ++ [' ']) ++ [')']

end Items

namespace Binding

def letters (b : Binding) : Octets :=
  let kind := match b.items with
    | some (.numbered _) => ['a']
    | some (.keyed _) => ['A']
    | none => []
  let has (c : Char) : Octets := if b.marks.contains c then [c] else []
  kind ++ has 'i' ++ has 'n' ++ (if b.readonly then ['r'] else []) ++
    (if b.exported then ['x'] else []) ++ has 'c' ++ has 'l' ++ has 'u'

def declaration (name : Octets) (b : Binding) : Octets :=
  let letters := if b.letters = [] then ['-'] else b.letters
  let value := match b.items, b.value with
    | some items, value =>
      if items.size = 0 && value.isNone then [] else '=' :: items.written
    | none, some text => '=' :: Quoting.value text
    | none, none => []
  Octets.say "declare -" ++ letters ++ ' ' :: name ++ value

end Binding

def State.manner (s : State) : Wildcard.Manner where
  extended := s.isOn "extglob"
  folds := s.isOn "nocasematch"

inductive Selection where
  | single
  | all (joins : Bool)
  | element (subscript : Octets)

structure Held where
  values : List Octets
  isList : Bool := false
  joins : Bool := false
  isSet : Bool := true

namespace Held

def ofOption : Option Octets → Held
  | some text => { values := [text] }
  | none => { values := [], isSet := false }

def ofList (joins : Bool) (values : List Octets) : Held :=
  { values, isList := true, joins, isSet := values != [] }

def text (h : Held) : Octets := [' '].intercalate h.values

def map (h : Held) (change : Octets → Octets) : Held := { h with values := h.values.map change }

def fragments (s : State) (quoted : Bool) (h : Held) : List Fragment :=
  if h.isList then
    if quoted && h.joins then [.text (s.between.intercalate h.values) true false]
    else
      let joint := if h.joins then s.between else [' ']
      let rec apart : List Octets → List Fragment
        | [] => []
        | [last] => [.text last quoted (!quoted)]
        | first :: rest => .text first quoted (!quoted) :: .boundary joint :: apart rest
      apart h.values
  else match h.values with
    | text :: _ => [.text text quoted (!quoted)]
    | [] => if quoted then [.text [] true false] else []

end Held

def isAll (name : Octets) : Bool := name = ['@'] || name = ['*']

def select (name : Octets) (selection : Selection) : Action Held := do
  if name = "RANDOM".toList then draw name
  let s ← get
  if isAll name then return .ofList (name = ['*']) s.arguments
  match selection with
  | .single => return .ofOption (s.parameter? name)
  | .all joins =>
    match s.items? name with
    | some items => return .ofList joins items.values
    | none => return .ofList joins (s.value? name).toList
  | .element subscript =>
    match ← keyOf name subscript with
    | some key => return .ofOption (s.element? name key)
    | none =>
      complain (name ++ Octets.say ": bad array subscript")
      return .ofOption none

def recased (m : Wildcard.Manner) (operator : Octets) (pattern : List Marked) (text : Octets) :
    Octets :=
  let p := Wildcard.ofMarked m pattern
  let covers (c : Char) : Bool := pattern = [] || Wildcard.covers m p [c]
  let change (c : Char) : Char :=
    if !covers c then c
    else if operator.head? = some '^' then c.toUpper
    else if operator.head? = some ',' then c.toLower
    else Regex.otherCase c
  if operator.length = 2 then text.map change
  else match text with
    | c :: rest => change c :: rest
    | [] => []

def replacement (text : List Marked) (covered : Octets) : Octets :=
  text.flatMap fun (c, active) => if active && c = '&' then covered else [c]

def replaced (m : Wildcard.Manner) (operator : Octets) (pattern new : List Marked)
    (text : Octets) : Octets :=
  let p := Wildcard.ofMarked m pattern
  match String.ofList operator with
  | "/#" => Wildcard.replaceFront m p (replacement new) text
  | "/%" => Wildcard.replaceBack m p (replacement new) text
  | operator =>
    if pattern = [] then text
    else if text = [] then Wildcard.replaceFront m p (replacement new) text
    else Wildcard.replaceFrom m p (operator = "//") (replacement new) (text.length + 1) text

def transformed (letter : Char) (text : Octets) : Octets :=
  match letter with
  | 'Q' | 'k' | 'K' => Quoting.reusable text
  | 'U' => text.map Char.toUpper
  | 'L' => text.map Char.toLower
  | 'u' => match text with
    | c :: rest => c.toUpper :: rest
    | [] => []
  | 'E' => Escaped.resolved text
  | _ => text

def told (s : State) (letter : Char) (name : Octets) (isList joins : Bool) (held : Held) : Held :=
  let b := (s.variableOf name).getD { value := none }
  match letter with
  | 'a' =>
    if b.letters = [] && held.values = [] then .ofOption none
    else if isList then .ofList joins (held.values.map fun _ => b.letters)
    else .ofOption (some b.letters)
  | 'A' =>
    match b.items with
    | some items =>
      if isList then .ofOption (some (Binding.declaration name { b with items := some items }))
      else .ofOption (held.values.head?.map fun text =>
        Octets.say "declare -" ++ b.letters ++ ' ' :: name ++ '=' :: Quoting.reusable text)
    | none => .ofOption (held.values.head?.map fun text =>
        (if b.letters = [] then [] else Octets.say "declare -" ++ b.letters ++ [' ']) ++ name ++
          '=' :: Quoting.reusable text)
  | letter =>
    match b.items with
    | some items =>
      if !isList then held.map Quoting.reusable
      else if letter = 'k' then
        .ofList joins (items.pairs.flatMap fun (key, value) => [key, value])
      else
        let all := [' '].intercalate (items.pairs.map fun (key, value) =>
          Quoting.key key ++ ' ' :: Quoting.value value)
        .ofOption (some (if items.isKeyed then all ++ [' '] else all))
    | none => held.map Quoting.reusable

def partOf (s : State) (name : Octets) (held : Held) (isList : Bool) (first : Int)
    (count : Option Int) (shown : Octets) : Action Held := do
  let refuse : Action Held := discard (shown ++ Octets.say ": substring expression < 0")
  if !isList then
    match held.values with
    | [] => return held
    | text :: _ =>
      let size : Int := text.length
      let first := if first < 0 then first + size else first
      if first < 0 || size < first then return { held with values := [[]] }
      let last := match count with
        | none => size
        | some n => if n < 0 then size + n else min size (first + n)
      if last < first then return ← refuse
      return { held with values := [(text.drop first.toNat).take (last - first).toNat] }
  else
    let pairs : List (Int × Octets) :=
      if isAll name then (s.name :: s.arguments).mapIdx fun i text => ((i : Int), text)
      else match s.items? name with
        | some (.numbered items) => items.map fun (n, text) => ((n : Int), text)
        | _ => held.values.mapIdx fun i text => ((i : Int), text)
    let end_ : Int := (pairs.getLast?.map (·.1 + 1)).getD 0
    let isKeyed := (s.items? name).any (·.isKeyed)
    let first := if isKeyed then max 0 (first - 1) else first
    let first := if first < 0 then first + end_ else first
    if count.any (· < 0) then return ← refuse
    let kept := if first < 0 then [] else pairs.filter (first ≤ ·.1)
    let values := kept.map (·.2)
    return .ofList held.joins (match count with
      | none => values
      | some n => values.take n.toNat)

def namesFrom (s : State) (start : Octets) : List Octets :=
  ((s.bindings.filter fun (name, b) =>
    start.isPrefixOf name && (b.value.isSome || b.items.any (0 < ·.size))).map (·.1)).mergeSort
      fun a b => !(b < a : Bool)

structure Inside where
  text : Word → Action Octets
  pattern : Word → Action (List Marked)
  fragments : Word → Action (List Fragment)

def selection (inside : Inside) (subscript : List Word) : Action Selection := do
  match subscript with
  | [] => return .single
  | [.text ['@'] false] :: _ => return .all false
  | [.text ['*'] false] :: _ => return .all true
  | word :: _ => return .element (← inside.text word)

def spelledSelection (text : Octets) : Option (Octets × Selection) :=
  let name := text.takeWhile (· != '[')
  let isParameter := Octets.isName name || Octets.isNumber name ||
    (name.length = 1 && name.all fun c => "@*#?-$!".toList.contains c)
  if !isParameter then none
  else match text.drop name.length with
    | [] => some (name, .single)
    | '[' :: rest =>
      if rest.getLast? != some ']' || !Octets.isName name then none
      else match rest.dropLast with
        | ['@'] => some (name, .all false)
        | ['*'] => some (name, .all true)
        | [] => none
        | subscript => some (name, .element subscript)
    | _ => none

def operate (inside : Inside) (name : Octets) (selected : Selection) (operator : Octets)
    (arguments : List Word) (text : Octets) (quoted : Bool) : Action (List Fragment) := do
  let held ← select name selected
  let s ← get
  let isList := held.isList
  let first := arguments.headD []
  let shown (held : Held) : List Fragment := held.fragments s quoted
  let argument : Action (List Fragment) := do
    let found ← inside.fragments first
    return if quoted then .text [] true false :: found else found
  let isMissing := !held.isSet || (operator.head? = some ':' && held.text = [])
  -- Parameters without names are shown with the sign before them.
  let spelled := if Octets.isName name then text else '$' :: text
  let needed : Action Unit := do
    if !held.isSet && s.has 'u' && !isList then
      abandon (spelled ++ Octets.say ": unbound variable")
  match String.ofList operator with
  | "" =>
    needed
    return shown held
  | "-" | ":-" => if isMissing then argument else return shown held
  | "+" | ":+" =>
    if isMissing then return if quoted then [.text [] true false] else []
    else argument
  | "=" | ":=" =>
    if !isMissing then return shown held
    else
      let value := Fragment.plain (← inside.fragments first)
      unless Octets.isName name do
        discard (spelled ++ Octets.say ": cannot assign in this way")
      match selected with
      | .element subscript => give name (← keyOf name subscript) false value
      | _ => give name none false value
      return [.text value quoted (!quoted)]
  | "?" | ":?" =>
    if !isMissing then return shown held
    else
      let message := Fragment.plain (← inside.fragments first)
      let standard := if operator.head? = some ':' then "parameter null or not set"
        else "parameter not set"
      abandon (spelled ++ Octets.say ": " ++ if message = [] then Octets.say standard else message)
  | "#" | "##" | "%" | "%%" =>
    needed
    let p := Wildcard.ofMarked s.manner (← inside.pattern first)
    let longest := operator.length = 2
    let change := if operator.head? = some '#' then Wildcard.dropFront s.manner p longest
      else Wildcard.dropBack s.manner p longest
    return shown (held.map change)
  | "/" | "//" | "/#" | "/%" =>
    needed
    let pattern ← inside.pattern first
    let new ← match arguments[1]? with
      | some word => inside.pattern word
      | none => pure []
    return shown (held.map (replaced s.manner operator pattern new))
  | ":" =>
    needed
    let start ← computed (← inside.text first)
    let (count, said) ← match arguments[1]? with
      | some word => do
        let said ← inside.text word
        pure (some (← computed said), said)
      | none => pure (none, [])
    if !held.isSet then return shown held
    return shown (← partOf s name held isList start count said)
  | _ =>
    match operator with
    | ['@', letter] =>
      needed
      let joins := held.joins
      if "aAKk".toList.contains letter then return shown (told s letter name isList joins held)
      return shown (held.map (transformed letter))
    | operator =>
      needed
      let pattern ← inside.pattern first
      return shown (held.map (recased s.manner operator pattern))

def reference (inside : Inside) (asking : Asking) (name : Octets) (subscript : List Word)
    (operator : Octets) (arguments : List Word) (text : Octets) (quoted : Bool) :
    Action (List Fragment) := do
  let selected ← selection inside subscript
  let s ← get
  match asking with
  | .value => operate inside name selected operator arguments text quoted
  | .count =>
    let held ← select name selected
    if !held.isSet && !held.isList && s.has 'u' then
      abandon (text.drop 1 ++ Octets.say ": unbound variable")
    let n := if held.isList then held.values.length else (held.values.headD []).length
    return [.text (Octets.ofInt n) quoted (!quoted)]
  | .names =>
    let found := Held.ofList (operator = ['*']) (namesFrom s name)
    return found.fragments s quoted
  | .keys =>
    let joins := match selected with
      | .all joins => joins
      | _ => false
    let keys := match s.items? name with
      | some items => items.keys
      | none => if (s.value? name).isSome then [['0']] else []
    return (Held.ofList joins keys).fragments s quoted
  | .indirect =>
    let isName := (s.bindings.lookup name).any (·.marks.contains 'n')
    if isName && operator = [] && subscript.isEmpty then
      return (Held.ofOption ((s.bindings.lookup name).bind (·.value))).fragments s quoted
    let held ← select name selected
    match held.values.head? with
    | none => discard (name ++ Octets.say ": invalid indirect expansion")
    | some target =>
      match spelledSelection target with
      | none =>
        if target = [] then discard (name ++ Octets.say ": invalid indirect expansion")
        else discard (target ++ Octets.say ": invalid variable name")
      | some (name, selected) => operate inside name selected operator arguments target quoted

end SvelteTransform.Sandbox.Shell
