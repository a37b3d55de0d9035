import SvelteTransform.Sandbox.Files
import SvelteTransform.Sandbox.Escaped
import SvelteTransform.Sandbox.Shell.Syntax

/-! Reading words: quotes, parameters, scripts and expressions inside them, and the documents that
follow a line. -/
namespace SvelteTransform.Sandbox.Shell

structure Announced where
  number : Nat
  ending : Octets
  dropsTabs : Bool
  literal : Bool
  line : Nat

structure Replaced where
  name : Octets
  left : Nat
  goesOn : Bool

structure Source where
  rest : Octets
  dialect : Dialect := .dash
  hasGroups : Bool := false
  line : Nat := 1
  text : Octets := []
  firstLine : Nat := 1
  aliases : List (Octets × Octets) := []
  replaced : List Replaced := []
  announced : List Announced := []
  documents : List (Nat × Word) := []
  unused : Nat := 0
  warnings : List (Nat × String) := []

abbrev Reading := StateT Source (Except ScriptError)

structure Scripts where
  enclosed : Reading Command
  whole : Reading Command

namespace Source

def pass (s : Source) (count : Nat) : Source :=
  { s with rest := s.rest.drop count, line := s.line + (s.rest.take count).count '\n' }

def replace (s : Source) (name value : Octets) : Source :=
  let rest := s.rest.drop name.length
  let goesOn := value.getLast?.any Octets.isBlank
  { s with rest := value ++ rest, replaced := ⟨name, rest.length, goesOn⟩ :: s.replaced }

def room (s : Source) : Nat :=
  (s.rest.length + 1) * (1 + (s.aliases.flatMap (·.2)).length)

end Source

namespace Word

def refuse {α : Type} (message : String) : Reading α := do
  throw { line := (← get).line, message := s!"Syntax error: {message}" }

def currentLine (s : Source) : Octets :=
  ((Path.cutAt '\n' s.text)[s.line - s.firstLine]?).getD []

def unclosed {α : Type} (closing : Char) (message : String) : Reading α := do
  let s ← get
  match s.dialect with
  | .dash => refuse message
  | .bash =>
    let closing := String.ofList [closing]
    throw {
      line := s.line
      message := s!"unexpected EOF while looking for matching \x60{closing}'" }

def pass (count : Nat) : Reading Unit := modify (·.pass count)

inductive Mode where
  | bare
  | quotes
  | braces (quoted : Bool)
  | sum (depth : Nat)
  | document
  | subscript (depth : Nat)
  | part (stop : Char) (quoted : Bool)
  | group (depth : Nat)
  | regex (depth : Nat)
  deriving DecidableEq

def Mode.quoted : Mode → Bool
  | .bare | .braces false | .part _ false | .subscript _ | .group _ | .regex _ => false
  | _ => true

def backquote : Char := '\x60'

def endsWord (c : Char) : Bool :=
  [' ', '\t', '\n', ';', '&', '|', '<', '>', '(', ')'].contains c

def Mode.endsAt (mode : Mode) (c : Char) : Bool :=
  match mode with
  | .bare => endsWord c
  | .quotes => c = '"'
  | .braces _ => c = '\x7d'
  | .part stop _ => c = stop || c = '\x7d'
  | .regex 0 => c != '(' && c != '|' && endsWord c
  | .sum _ | .document | .subscript _ | .group _ | .regex _ => false

def Mode.leavesEnd : Mode → Bool
  | .bare | .part .. | .regex _ => true
  | _ => false

def Mode.isPlain (mode : Mode) (c : Char) : Bool :=
  c != '\\' && c != '$' && c != backquote && !mode.endsAt c &&
    match mode with
    | .bare | .braces false | .part _ false => c != '\'' && c != '"'
    | .braces true | .part _ true => c != '"'
    | .sum _ => c != '(' && c != ')'
    | .subscript _ => c != '\'' && c != '"' && c != '[' && c != ']'
    | .group _ | .regex _ => c != '\'' && c != '"' && c != '(' && c != ')'
    | .quotes | .document => true

def Mode.escapes (mode : Mode) (c : Char) : Bool :=
  match mode with
  | .bare | .braces false | .part _ false | .subscript _ | .group _ | .regex _ => true
  | .quotes | .sum _ => c = '\\' || c = '$' || c = backquote || c = '"'
  | .braces true | .part _ true =>
    c = '\\' || c = '$' || c = backquote || c = '"' || c = '\x7d'
  | .document => c = '\\' || c = '$' || c = backquote

def isSpecial (c : Char) : Bool := ['@', '*', '#', '?', '-', '$', '!'].contains c

def leadingName (braced : Bool) (text : Octets) : Octets :=
  match text with
  | [] => []
  | c :: _ =>
    if Octets.isNameStart c then text.takeWhile Octets.isNamePart
    else if Octets.isDigit c then if braced then text.takeWhile Octets.isDigit else [c]
    else if isSpecial c then [c] else []

def backquoted (quoted : Bool) : Octets → Option (Octets × Octets)
  | [] => none
  | '\\' :: c :: rest => do
    let (text, after) ← backquoted quoted rest
    if c = '\n' then some (text, after)
    else if c = backquote || c = '\\' || c = '$' || (quoted && c = '"') then some (c :: text, after)
    else some ('\\' :: c :: text, after)
  | c :: rest => do
    if c = backquote then some ([], rest)
    else
      let (text, after) ← backquoted quoted rest
      some (c :: text, after)

def readApart (scripts : Scripts) (text : Octets) : Reading Command := do
  let s ← get
  let (body, inner) ← scripts.whole.run { s with rest := text, announced := [] }
  set { s with documents := inner.documents, unused := inner.unused }
  return body

def backquotes (scripts : Scripts) (quoted : Bool) : Reading Piece := do
  match backquoted quoted (← get).rest with
  | none => unclosed backquote "EOF in backquote substitution"
  | some (text, after) =>
    let body ← readApart scripts text
    modify fun s => s.pass (s.rest.length - after.length)
    return .output body quoted

def operators : List Octets :=
  [":-", ":=", ":+", ":?", ":", "-", "=", "+", "?", "%%", "%", "##", "#"].map String.toList

def braced (inner : Mode → Reading Word) (quoted : Bool) : Reading Piece := do
  let argumentMode (operator : Octets) : Mode :=
    .braces (quoted && operator.head? != some '%' && operator.head? != some '#')
  let withOperator (name rest : Octets) (before : Nat) : Reading Piece := do
    match operators.find? (·.isPrefixOf rest) with
    | some operator =>
      pass (before + operator.length)
      let argument ← inner (argumentMode operator)
      if operator = [':'] && !argument.isEmpty then return .faulty
      return .parameter name (if operator = [':'] then [] else operator) argument quoted
    | none =>
      pass before
      let argument ← inner (.braces quoted)
      return if argument.isEmpty then .parameter name [] [] quoted else .faulty
  let text := (← get).rest
  match text with
  | '#' :: rest =>
    let name := leadingName true rest
    if name != [] && (rest.drop name.length).head? = some '\x7d' then
      pass (name.length + 2)
      return .parameter name ['l'] [] quoted
    else if rest.head?.any Octets.isNamePart then
      let _ ← inner (.braces quoted)
      return .faulty
    else withOperator ['#'] rest 1
  | text =>
    let name := leadingName true text
    if name = [] then
      let _ ← inner (.braces quoted)
      return .faulty
    else withOperator name (text.drop name.length) name.length

inductive Following where
  | word
  | pattern
  | replacement
  | range

def referenceOperators : List (Octets × Following) :=
  ([":-", ":=", ":+", ":?", "-", "=", "+", "?"].map fun op => (op.toList, Following.word)) ++
  (["##", "#", "%%", "%", "^^", "^", ",,", ",", "~~", "~"].map fun op => (op.toList, .pattern)) ++
  (["//", "/#", "/%", "/"].map fun op => (op.toList, .replacement)) ++ [([':'], .range)]

def asked (text : Octets) : Asking × Octets × Octets :=
  let plain : Asking × Octets × Octets :=
    let name := leadingName true text
    (.value, name, text.drop name.length)
  match text with
  | '!' :: rest =>
    let name := leadingName true rest
    let after := rest.drop name.length
    if name = [] || rest.head? = some '\x7d' then plain
    else if Octets.isName name && (after.take 2 = ['*', '\x7d'] || after.take 2 = ['@', '\x7d']) then
      (.names, name, after)
    else (.indirect, name, after)
  | '#' :: rest =>
    let name := leadingName true rest
    let after := rest.drop name.length
    if name != [] && (after.head? = some '\x7d' || (Octets.isName name && after.head? = some '['))
    then (.count, name, after)
    else plain
  | _ => plain

def reference (inner : Mode → Reading Word) (quoted : Bool) : Reading Piece := do
  let whole := (← get).rest
  let seen : Reading Octets :=
    return "$\x7b".toList ++ whole.take (whole.length - (← get).rest.length)
  let unknown : Reading Piece := do
    let _ ← inner (.braces quoted)
    return .unknown (← seen) false
  let (asking, name, after) := asked whole
  if name = [] then return ← unknown
  pass (whole.length - after.length)
  let subscript ← if Octets.isName name && after.head? = some '[' then do
      pass 1
      pure [← inner (.subscript 0)]
    else pure []
  if subscript matches [[]] then return ← unknown
  let text := whole.take (whole.length - (← get).rest.length)
  let finish (asking : Asking) (operator : Octets) (arguments : List Word) : Reading Piece :=
    return .reference asking name subscript operator arguments text quoted
  let rest := (← get).rest
  match rest with
  | '\x7d' :: _ =>
    pass 1
    match asking, subscript with
    | .indirect, [[.text [c] false]] => finish (if c = '@' || c = '*' then .keys else asking) [] []
    | _, _ => finish asking [] []
  | '@' :: letter :: '\x7d' :: _ =>
    if "QUuLEPAKak".toList.contains letter then
      pass 3
      finish asking ['@', letter] []
    else unknown
  | _ =>
    if asking = .names then
      pass 2
      finish .names (rest.take 1) []
    else if asking = .count then unknown
    else match referenceOperators.find? (·.1.isPrefixOf rest) with
      | none => unknown
      | some (operator, following) =>
        pass operator.length
        match following with
        | .word => finish asking operator [← inner (.braces quoted)]
        | .pattern => finish asking operator [← inner (.braces false)]
        | .replacement | .range =>
          let stop := if operator = [':'] then ':' else '/'
          let first ← inner (.part stop false)
          let isMore := (← get).rest.head? = some stop
          pass 1
          if isMore then finish asking operator [first, ← inner (.braces false)]
          else finish asking operator [first]

def dollar (scripts : Scripts) (inner : Mode → Reading Word) (quoted : Bool) : Reading Piece := do
  let s ← get
  match s.rest with
  | '\'' :: rest =>
    if quoted || s.dialect = .dash then return .text ['$'] quoted
    match Escaped.quotedLength rest with
    | none =>
      pass s.rest.length
      unclosed '\'' ""
    | some n =>
      pass (n + 2)
      return .text (Escaped.resolved (rest.take n)) true
  | '[' :: _ =>
    if s.dialect = .dash then return .text ['$'] quoted
    pass 1
    return .number (← inner (.subscript 0)) quoted
  | '(' :: '(' :: _ =>
    pass 2
    return .number (← inner (.sum 0)) quoted
  | '(' :: _ =>
    pass 1
    return .output (← scripts.enclosed) quoted
  | '\x7b' :: _ =>
    pass 1
    if s.dialect = .dash then braced inner quoted else reference inner quoted
  | text =>
    let name := leadingName false text
    pass name.length
    return if name = [] then .text ['$'] quoted else .parameter name [] [] quoted

def within (text : Octets) (word : Word) : Word := word.map fun
  | .unknown _ false => .unknown text true
  | piece => piece

def pieces (scripts : Scripts) : (fuel : Nat) → Mode → Reading Word
  | 0, _ => return []
  | fuel + 1, mode => do
    let goOn (piece : Piece) : Reading Word := return piece :: (← pieces scripts fuel mode)
    match (← get).rest with
    | [] =>
      match mode with
      | .bare | .document | .regex 0 => return []
      | .quotes => unclosed '"' "Unterminated quoted string"
      | .braces true => unclosed '\x7d' "Unterminated quoted string"
      | .braces false | .part .. => unclosed '\x7d' "Missing '\x7d'"
      | .sum _ => unclosed ')' "Missing '))'"
      | .subscript _ => unclosed ']' ""
      | .group _ | .regex _ => unclosed ')' ""
    | c :: rest =>
      let s ← get
      if mode.isPlain c then
        let text := (c :: rest).takeWhile mode.isPlain
        pass text.length
        let isGroup := s.hasGroups && mode = .bare && (← get).rest.head? = some '(' &&
          text.getLast?.any fun last => "?*+@!".toList.contains last
        if isGroup then
          pass 1
          let inside ← pieces scripts fuel (.group 0)
          let after ← pieces scripts fuel mode
          return .text (text ++ ['(']) false :: inside ++ .text [')'] false :: after
        goOn (.text text mode.quoted)
      else if s.dialect = .bash && mode = .bare && (c = '<' || c = '>') &&
          rest.head? = some '(' then
        pass 2
        goOn (.process (c = '<') (← scripts.enclosed))
      else if mode.endsAt c then
        unless mode.leavesEnd do pass 1
        return []
      else if c = '$' then
        pass 1
        if s.dialect = .bash && !mode.quoted && rest.head? = some '"' then
          return ← pieces scripts fuel mode
        goOn (← dollar scripts (pieces scripts fuel) mode.quoted)
      else if c = backquote then
        pass 1
        goOn (← backquotes scripts mode.quoted)
      else if c = '\\' then
        match rest with
        | [] =>
          pass 1
          goOn (.text ['\\'] true)
        | '\n' :: _ =>
          pass 2
          pieces scripts fuel mode
        | d :: _ =>
          pass 2
          goOn (.text (if mode.escapes d then [d] else ['\\', d]) true)
      else if c = '\'' then
        let text := rest.takeWhile (· != '\'')
        if text.length = rest.length then
          if s.dialect = .dash then pass (rest.length + 1)
          unclosed '\'' "Unterminated quoted string"
        pass (text.length + 2)
        goOn (.text text true)
      else if c = '"' then
        pass 1
        let start := rest
        let inside ← pieces scripts fuel .quotes
        let left := (← get).rest.length + 1
        let inside := within (start.take (start.length - left)) inside
        let rest ← pieces scripts fuel mode
        return (if inside.isEmpty then [.text [] true] else inside) ++ rest
      else
        pass 1
        match mode, c with
        | .sum depth, '(' =>
          return .text [c] true :: (← pieces scripts fuel (.sum (depth + 1)))
        | .sum 0, ')' =>
          if rest.head? = some ')' then
            pass 1
            return []
          goOn (.text [c] true)
        | .sum (depth + 1), ')' =>
          return .text [c] true :: (← pieces scripts fuel (.sum depth))
        | .subscript depth, '[' =>
          return .text [c] false :: (← pieces scripts fuel (.subscript (depth + 1)))
        | .subscript 0, ']' | .group 0, ')' => return []
        | .subscript (depth + 1), ']' =>
          return .text [c] false :: (← pieces scripts fuel (.subscript depth))
        | .group depth, '(' =>
          return .text [c] false :: (← pieces scripts fuel (.group (depth + 1)))
        | .group (depth + 1), ')' =>
          return .text [c] false :: (← pieces scripts fuel (.group depth))
        | .regex depth, '(' =>
          return .text [c] false :: (← pieces scripts fuel (.regex (depth + 1)))
        | .regex (depth + 1), ')' =>
          return .text [c] false :: (← pieces scripts fuel (.regex depth))
        | _, _ => goOn (.text [c] mode.quoted)

def readIn (mode : Mode) (scripts : Scripts) : Reading Word := do
  pieces scripts ((← get).rest.length + 1) mode

def read (scripts : Scripts) : Reading Word := do
  let start := (← get).rest
  let word ← readIn .bare scripts
  let hasUnknown := word.any fun
    | .unknown _ false => true
    | _ => false
  let left := (← get).rest.length
  return if hasUnknown then within (start.take (start.length - left)) word else word

def skipBetween : (fuel : Nat) → Source → Source
  | 0, s => s
  | fuel + 1, s =>
    match s.rest with
    | ' ' :: _ | '\t' :: _ | '\n' :: _ => skipBetween fuel (s.pass 1)
    | '\\' :: '\n' :: _ => skipBetween fuel (s.pass 2)
    | '#' :: _ => skipBetween fuel (s.pass (s.rest.takeWhile (· != '\n')).length)
    | _ => s

def assignedAfter (scripts : Scripts) (value : Reading Word) (name : Octets) :
    Reading (Option Word) := do
  let before ← get
  let subscript ← if before.rest.head? = some '[' then
      tryCatch (do
        pass 1
        return some [← readIn (.subscript 0) scripts]) fun _ => return none
    else pure (some [])
  let some subscript := subscript
    | set before
      return none
  match (← get).rest with
  | '+' :: '=' :: _ =>
    pass 2
    return some [.assignment name subscript true (← value)]
  | '=' :: next =>
    if subscript.isEmpty && next.head? != some '(' then
      set before
      return none
    pass 1
    return some [.assignment name subscript false (← value)]
  | _ =>
    set before
    return none

def items (scripts : Scripts) : (fuel : Nat) → Reading (List Word)
  | 0 => return []
  | fuel + 1 => do
    modify fun s => skipBetween (s.rest.length + 1) s
    match (← get).rest with
    | [] => unclosed ')' ""
    | ')' :: _ =>
      pass 1
      return []
    | c :: _ =>
      let assigned ← if c = '[' then assignedAfter scripts (read scripts) [] else pure none
      let item ← match assigned with
        | some item => pure item
        | none => read scripts
      if item.isEmpty then
        throw {
          line := (← get).line
          message := s!"syntax error near unexpected token \x60{String.ofList [c]}'"
          shown := some (currentLine (← get)) }
      return item :: (← items scripts fuel)

def readAssigning (scripts : Scripts) : Reading Word := do
  let s ← get
  let name := if s.rest.head?.any Octets.isNameStart then s.rest.takeWhile Octets.isNamePart else []
  let after := s.rest.drop name.length
  if s.dialect = .dash || name = [] || !(after.head?.any fun c => "[=+".toList.contains c) then
    read scripts
  else
    let value : Reading Word := do
      if (← get).rest.head? = some '(' then
        pass 1
        return [.list (← items scripts ((← get).rest.length + 1))]
      read scripts
    pass name.length
    match ← assignedAfter scripts value name with
    | some word => return word
    | none =>
      set s
      read scripts

def plain? : Word → Option Octets
  | [.text text false] => some text
  | _ => none

def ending : (fuel : Nat) → (quote : Option Char) → Octets → Octets × Bool × Octets
  | 0, _, rest => ([], false, rest)
  | _, _, [] => ([], false, [])
  | fuel + 1, none, c :: rest =>
    if endsWord c then ([], false, c :: rest)
    else if c = '\'' || c = '"' then
      let (text, _, rest) := ending fuel (some c) rest
      (text, true, rest)
    else if c = '\\' then
      let (text, _, after) := ending fuel none rest.tail
      (rest.take 1 ++ text, true, after)
    else
      let (text, quoted, rest) := ending fuel none rest
      (c :: text, quoted, rest)
  | fuel + 1, some q, c :: rest =>
    let (text, quoted, rest) := ending fuel (if c = q then none else some q) rest
    (if c = q then text else c :: text, quoted, rest)

def documentLines (a : Announced) : (fuel : Nat) → Octets → Octets × Octets × Bool
  | 0, rest => ([], rest, false)
  | _, [] => ([], [], false)
  | fuel + 1, rest =>
    let line := rest.takeWhile (· != '\n')
    let after := (rest.drop line.length).tail
    let kept := if a.dropsTabs then line.dropWhile (· = '\t') else line
    if kept = a.ending then ([], after, true)
    else
      let (more, after, ended) := documentLines a fuel after
      let lineEnd := (rest.drop line.length).take 1
      (kept ++ lineEnd ++ more, after, ended)

def documents (scripts : Scripts) : Reading Unit := do
  for a in (← get).announced do
    let s ← get
    let (text, after, ended) := documentLines a (s.rest.length + 1) s.rest
    let lacksEnd := s.dialect = .bash && text != [] && text.getLast? != some '\n'
    let text := if lacksEnd then text ++ ['\n'] else text
    let word ←
      if a.literal then pure [.text text true]
      else do
        set { s with rest := text, announced := [] }
        pieces scripts (text.length + 1) .document
    modify fun inner => { s.pass (s.rest.length - after.length) with
      documents := (a.number, word) :: inner.documents, unused := inner.unused }
    unless ended || s.dialect = .dash do
      let last := (← get).line
      let ending := String.ofList a.ending
      let text := s!"warning: here-document at line {a.line} delimited by end-of-file " ++
        s!"(wanted \x60{ending}')"
      modify fun s => { s with warnings := (last, text) :: s.warnings }
  modify ({ · with announced := [] })

end Word
end SvelteTransform.Sandbox.Shell
