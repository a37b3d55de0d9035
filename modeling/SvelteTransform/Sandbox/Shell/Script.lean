import SvelteTransform.Sandbox.Shell.Word

/-! Reading scripts, one line with all that belongs to it at a time. -/
namespace SvelteTransform.Sandbox.Shell.Script

inductive Token where
  | done
  | lineEnd
  | operator (text : Octets)
  | redirect (descriptor : Option Nat) (operator : Octets)
  | word
  deriving DecidableEq

def operators : Dialect → List Octets
  | .dash => ["&&", "||", ";;", ";", "&", "|", "(", ")"].map String.toList
  | .bash => ["&&", "||", ";;&", ";;", ";&", ";", "&", "|&", "|", "(", ")"].map String.toList

def redirections : Dialect → List Octets
  | .dash => ["<<-", "<<", "<&", "<>", "<", ">>", ">&", ">|", ">"].map String.toList
  | .bash => ["<<<", "<<-", "<<", "<&", "<>", "<", "&>>", "&>", ">>", ">&", ">|", ">"].map
      String.toList

def reserved (dialect : Dialect) : List String :=
  ["!", "case", "do", "done", "elif", "else", "esac", "fi", "for", "if", "in", "then", "until",
   "while", "\x7b", "\x7d"] ++
  if dialect = .dash then [] else ["function", "select", "time", "[[", "]]"]

def skipBlanks : (fuel : Nat) → Source → Source
  | 0, s => s
  | fuel + 1, s =>
    match s.rest with
    | ' ' :: _ | '\t' :: _ => skipBlanks fuel (s.pass 1)
    | '\\' :: '\n' :: _ => skipBlanks fuel (s.pass 2)
    | '#' :: _ => s.pass (s.rest.takeWhile (· != '\n')).length
    | _ => s

def tokenAt (dialect : Dialect) (rest : Octets) : Token × Nat :=
  let redirection (descriptor : Option Nat) (text : Octets) (before : Nat) : Option (Token × Nat) :=
    if dialect = .bash && (text.take 2 = ['<', '('] || text.take 2 = ['>', '(']) then none
    else ((redirections dialect).find? (·.isPrefixOf text)).map fun op =>
      (.redirect descriptor op, before + op.length)
  match rest with
  | [] => (.done, 0)
  | '\n' :: _ => (.lineEnd, 1)
  | c :: more =>
    let isBoth := dialect = .bash && c = '&' && more.head? = some '>'
    match if isBoth then none else (operators dialect).find? (·.isPrefixOf (c :: more)) with
    | some op => (.operator op, op.length)
    | none =>
      let digits := if dialect = .dash then [c] else (c :: more).takeWhile Octets.isDigit
      let found := if Octets.isDigit c then
          redirection (some (Octets.natural digits)) ((c :: more).drop digits.length) digits.length
        else redirection none (c :: more) 0
      found.getD (.word, 0)

def peek : Reading Token := do
  modify fun s => skipBlanks (s.rest.length + 1) s
  return (tokenAt (← get).dialect (← get).rest).1

def take : Reading Unit := do
  Word.pass (tokenAt (← get).dialect (← get).rest).2

def plainWord? : Reading (Option Octets) := do
  if (← peek) != .word then return none
  let rest := (← get).rest
  let text := rest.takeWhile fun c => !Word.endsWord c && (Word.Mode.bare).isPlain c
  let follows := (rest.drop text.length).head?
  return if follows.all Word.endsWord then some text else none

def keyword? : Reading (Option String) := do
  let known := reserved (← get).dialect
  return (← plainWord?).bind fun text => known.find? (·.toList = text)

def replaceAliases : (fuel : Nat) → Reading Unit
  | 0 => return
  | fuel + 1 => do
    let s ← get
    if s.aliases.isEmpty || (← keyword?).isSome then return
    if let some name := ← plainWord? then
      let s ← get
      let isBeingRead (r : Replaced) : Bool := r.name = name && r.left < s.rest.length
      if let (some value, false) := (s.aliases.lookup name, s.replaced.any isBeingRead) then
        set (s.replace name value)
        replaceAliases fuel

def replaceNext (begins : Bool) : Reading Unit := do
  let _ ← peek
  let s ← get
  let (ended, others) := s.replaced.partition (s.rest.length ≤ ·.left)
  set { s with replaced := others }
  if begins || ended.any (·.goesOn) then replaceAliases (s.aliases.length + 1)

def unexpectedShown {α : Type} : Reading α := do
  let token ← peek
  let s ← get
  let near (text : Octets) : Reading α := throw {
    line := s.line
    message := s!"syntax error near unexpected token \x60{String.ofList text}'"
    shown := some (Word.currentLine s) }
  match token with
  | .done => throw {
      line := if s.text.getLast? = some '\n' then s.line else s.line + 1
      message := "syntax error: unexpected end of file" }
  | .lineEnd => near "newline".toList
  | .operator text | .redirect _ text => near text
  | .word => near (s.rest.takeWhile (!Word.endsWord ·))

def unexpected {α : Type} (checksWords : Bool) (expected : Option String) : Reading α := do
  if (← get).dialect = .bash then unexpectedShown
  let name : String ← match ← peek with
    | .done => pure "end of file"
    | .lineEnd =>
      take
      pure "newline"
    | .operator text => pure s!"\"{String.ofList text}\""
    | .redirect .. => pure "redirection"
    | .word =>
      let found ← keyword?
      let _ ← Word.read ⟨return .nothing, return .nothing⟩
      pure <| match checksWords, found with
        | true, some text => s!"\"{text}\""
        | _, _ => "word"
  let wanted := match expected with
    | some text => s!" (expecting {text})"
    | none => ""
  Word.refuse s!"{name} unexpected{wanted}"

def skipLines (scripts : Scripts) : (fuel : Nat) → Reading Unit
  | 0 => return
  | fuel + 1 => do
    if (← peek) = .lineEnd then
      take
      Word.documents scripts
      skipLines scripts fuel

def newlines (scripts : Scripts) : Reading Unit := do
  skipLines scripts ((← get).rest.length + 1)

def expect (text : String) : Reading Unit := do
  if (← keyword?) = some text then Word.pass text.length
  else unexpected true (some s!"\"{text}\"")

def isOperator (token : Token) (text : String) : Bool := token = .operator text.toList

def expectOperator (text : String) : Reading Unit := do
  if isOperator (← peek) text then take else unexpected true (some s!"\"{text}\"")

def redirectAfter (scripts : Scripts) (descriptor : Option Nat) (operator : Octets) :
    Reading Redirect := do
  if (← peek) != .word then unexpected false none
  let dialect := (← get).dialect
  let number := descriptor.getD (if operator.head? = some '<' then 0 else 1)
  let kind (k : RedirectKind) : Reading Redirect := return (number, k, ← Word.read scripts)
  match String.ofList operator with
  | "<" => kind .read
  | ">" => kind .write
  | ">|" => kind .overwrite
  | ">>" => kind .append
  | "<>" => kind .readWrite
  | "<<<" => kind .line
  | "&>" => kind (.both false)
  | "&>>" => kind (.both true)
  | "<<" | "<<-" =>
    let s ← get
    let (text, quoted, rest) := Word.ending (s.rest.length + 1) none s.rest
    let document := s.unused
    set { s.pass (s.rest.length - rest.length) with
      unused := document + 1
      announced := s.announced ++ [Announced.mk document text (operator.length = 3) quoted s.line] }
    return (number, .document document, [])
  | _ =>
    let (_, _, target) ← kind .copy
    match Word.plain? target with
    | some text =>
      if dialect = .bash then
        let isNumber := text = ['-'] || Octets.isNumber text ||
          (text.getLast? = some '-' && Octets.isNumber text.dropLast)
        if operator.head? = some '>' && descriptor.isNone && !isNumber then
          return (1, .both false, target)
      else if text != ['-'] && !(text.length = 1 && text.all Octets.isDigit) then
        Word.refuse "Bad fd number"
    | none => pure ()
    return (number, .copy, target)

def redirects (scripts : Scripts) : (fuel : Nat) → Reading (List Redirect)
  | 0 => return []
  | fuel + 1 => do
    match ← peek with
    | .redirect descriptor operator =>
      take
      let first ← redirectAfter scripts descriptor operator
      return first :: (← redirects scripts fuel)
    | _ => return []

def assignment? : Word → Option (Octets × Word)
  | [.assignment name subscript appends value] =>
    some (name, [.assignment name subscript appends value])
  | .text text false :: rest =>
    let name := text.takeWhile (· != '=')
    if Octets.isName name && name.length < text.length then
      let value := text.drop (name.length + 1)
      some (name, if value = [] then rest else .text value false :: rest)
    else none
  | _ => none

structure Parts where
  assignments : List (Octets × Word) := []
  words : List Word := []
  redirects : List Redirect := []

def Parts.isEmpty (p : Parts) : Bool :=
  p.assignments.isEmpty && p.words.isEmpty && p.redirects.isEmpty

def declarations : List String := ["declare", "typeset", "local", "export", "readonly"]

def Parts.assigns (p : Parts) : Bool :=
  match p.words.getLast? with
  | none => true
  | some first => ((Word.plain? first).any fun text => declarations.contains (String.ofList text))

def parts (scripts : Scripts) : (fuel : Nat) → Parts → Reading Parts
  | 0, p => return p
  | fuel + 1, p => do
    replaceNext p.words.isEmpty
    match ← peek with
    | .word =>
      let word ← if p.assigns then Word.readAssigning scripts else Word.read scripts
      match p.words, assignment? word with
      | [], some assigned => parts scripts fuel { p with assignments := assigned :: p.assignments }
      | _, _ => parts scripts fuel { p with words := word :: p.words }
    | .redirect descriptor operator =>
      take
      let found ← redirectAfter scripts descriptor operator
      parts scripts fuel { p with redirects := found :: p.redirects }
    | _ => return p

def listed (scripts : Scripts) : (fuel : Nat) → Reading (List Word)
  | 0 => return []
  | fuel + 1 => do
    if (← peek) = .word then
      let word ← Word.read scripts
      return word :: (← listed scripts fuel)
    else return []

def patterns (scripts : Scripts) : (fuel : Nat) → Reading (List Word)
  | 0 => return []
  | fuel + 1 => do
    let word ← if (← peek) = .word then Word.read scripts else do
      take
      pure []
    if isOperator (← peek) "|" then
      take
      return word :: (← patterns scripts fuel)
    unless isOperator (← peek) ")" do unexpected false (some "\")\"")
    take
    return [word]

def specialCommands : List String :=
  [".", ":", "break", "continue", "eval", "exec", "exit", "export", "local", "readonly",
   "return", "set", "shift", "times", "trap", "unset"]

def closes (token : Token) (word : Option String) : Bool :=
  match token with
  | .done => true
  | .operator text => [")", ";;", ";&", ";;&"].contains (String.ofList text)
  | _ => match word with
    | some text =>
      ["do", "done", "elif", "else", "esac", "fi", "then", "\x7d"].contains text
    | none => false

def closesTwice : (depth : Nat) → Octets → Bool
  | _, [] => true
  | depth, '(' :: rest => closesTwice (depth + 1) rest
  | 0, ')' :: rest => rest.head? = some ')'
  | depth + 1, ')' :: rest => closesTwice depth rest
  | depth, _ :: rest => closesTwice depth rest

def cutExpression : Word → List Word
  | [] => [[]]
  | .text text quoted :: rest =>
    let after := cutExpression rest
    match Path.cutAt ';' text with
    | [] | [_] => (.text text quoted :: after.headD []) :: after.tail
    | first :: more =>
      let last := more.getLastD []
      [.text first quoted] :: (more.dropLast.map fun part => [.text part quoted]) ++
        (.text last quoted :: after.headD []) :: after.tail
  | piece :: rest =>
    let after := cutExpression rest
    (piece :: after.headD []) :: after.tail

def skipEnds : (fuel : Nat) → Reading Unit
  | 0 => return
  | fuel + 1 => do
    if (← peek) = .lineEnd then
      take
      skipEnds fuel

def unaryTests : List Char := "abcdefghknoprstuvwxzGLNORS".toList

def binaryTests : List String :=
  ["=", "==", "!=", "=~", "-eq", "-ne", "-lt", "-le", "-gt", "-ge", "-nt", "-ot", "-ef"]

def testOperator? : Reading (Option Octets) := do
  match ← peek with
  | .redirect none ['<'] =>
    take
    return some ['<']
  | .redirect none ['>'] =>
    take
    return some ['>']
  | .word =>
    match ← plainWord? with
    | some text =>
      if binaryTests.contains (String.ofList text) then
        Word.pass text.length
        return some text
      else return none
    | none => return none
  | _ => return none

mutual
def testEither (scripts : Scripts) : (fuel : Nat) → Reading Test
  | 0 => unexpected true none
  | fuel + 1 => do
    let first ← testBoth scripts fuel
    skipEnds (← get).rest.length
    if isOperator (← peek) "||" then
      take
      return .either first (← testEither scripts fuel)
    return first

def testBoth (scripts : Scripts) : (fuel : Nat) → Reading Test
  | 0 => unexpected true none
  | fuel + 1 => do
    let first ← testOne scripts fuel
    skipEnds (← get).rest.length
    if isOperator (← peek) "&&" then
      take
      return .both first (← testBoth scripts fuel)
    return first

def testOne (scripts : Scripts) : (fuel : Nat) → Reading Test
  | 0 => unexpected true none
  | fuel + 1 => do
    skipEnds (← get).rest.length
    if isOperator (← peek) "(" then
      take
      let inside ← testEither scripts fuel
      expectOperator ")"
      return inside
    if (← peek) != .word || (← keyword?) = some "]]" then unexpected true none
    if (← keyword?) = some "!" then
      Word.pass 1
      return .negated (← testOne scripts fuel)
    let unary := (← plainWord?).filter fun text => match text with
      | ['-', c] => unaryTests.contains c
      | _ => false
    let first ← Word.read scripts
    match unary with
    | some operator =>
      if (← peek) = .word && (← keyword?) != some "]]" then
        return .unary operator (← Word.read scripts)
      unexpected true none
    | none =>
      match ← testOperator? with
      | none =>
        if (← peek) = .word && (← keyword?) != some "]]" then
          let s ← get
          let near := String.ofList (s.rest.takeWhile (!Word.endsWord ·))
          throw {
            line := s.line, message := "conditional binary operator expected"
            more := some s!"syntax error near \x60{near}'", shown := some (Word.currentLine s) }
        return .unary "-n".toList first
      | some operator =>
        let _ ← peek
        let second ← Word.readIn (if operator = "=~".toList then .regex 0 else .bare) scripts
        if second.isEmpty then unexpected true none
        return .binary operator first second
end

def test (scripts : Scripts) : Reading Test := do
  let before := (← get).hasGroups
  modify ({ · with hasGroups := true })
  let found ← testEither scripts ((← get).rest.length + 8)
  modify ({ · with hasGroups := before })
  expect "]]"
  return found

def readSince (start : Octets) : Reading Octets := do
  let text := start.take (start.length - (← get).rest.length)
  return (text.reverse.dropWhile Octets.isSpace).reverse

mutual
def list : (fuel : Nat) → (optional : Bool) → Reading Command
  | 0, _ => unexpected true none
  | fuel + 1, optional => do
    newlines (scripts fuel)
    replaceNext true
    if optional && closes (← peek) (← keyword?) then return .nothing
    let start := (← get).rest
    let first ← andOr fuel
    match ← peek with
    | .lineEnd => return .sequence first (← list fuel true)
    | .operator [';'] =>
      take
      return .sequence first (← list fuel true)
    | .operator ['&'] =>
      let text ← readSince start
      take
      return .sequence (.background text first) (← list fuel true)
    | _ => return first

def line : (fuel : Nat) → Reading Command
  | 0 => unexpected true none
  | fuel + 1 => do
    let _ ← peek
    let start := (← get).rest
    let first ← andOr fuel
    let goOn (first : Command) : Reading Command := do
      match ← peek with
      | .lineEnd | .done => return first
      | _ => return .sequence first (← line fuel)
    match ← peek with
    | .lineEnd | .done => return first
    | .operator [';'] =>
      take
      goOn first
    | .operator ['&'] =>
      let text ← readSince start
      take
      goOn (.background text first)
    | _ => unexpected true none

def andOr : (fuel : Nat) → Reading Command
  | 0 => unexpected true none
  | fuel + 1 => do andOrFrom fuel (← pipeline fuel)

def andOrFrom : (fuel : Nat) → Command → Reading Command
  | 0, _ => unexpected true none
  | fuel + 1, first => do
    let token ← peek
    if isOperator token "&&" then
      take
      newlines (scripts fuel)
      andOrFrom fuel (.both first (← pipeline fuel))
    else if isOperator token "||" then
      take
      newlines (scripts fuel)
      andOrFrom fuel (.either first (← pipeline fuel))
    else return first

def pipeline : (fuel : Nat) → Reading Command
  | 0 => unexpected true none
  | fuel + 1 => do
    replaceNext true
    match ← keyword? with
    | some "!" =>
      Word.pass 1
      if (← get).dialect = .bash then return .negated (← pipeline fuel)
      return .negated (← stages fuel)
    | some "time" =>
      Word.pass 4
      if (← plainWord?) = some "-p".toList then Word.pass 2
      match ← peek with
      | .lineEnd | .done | .operator [';'] => return .timed .nothing
      | _ => return .timed (← pipeline fuel)
    | some word =>
      if word = "]]" then return ← simple fuel
      stages fuel
    | none => stages fuel

def stages : (fuel : Nat) → Reading Command
  | 0 => unexpected true none
  | fuel + 1 => do
    stagesFrom fuel (← command fuel)

def stagesFrom : (fuel : Nat) → Command → Reading Command
  | 0, _ => unexpected true none
  | fuel + 1, first => do
    let token ← peek
    if isOperator token "|" then
      take
      newlines (scripts fuel)
      stagesFrom fuel (.pipe first (← command fuel))
    else if isOperator token "|&" then
      let line := (← get).line
      take
      newlines (scripts fuel)
      let both : Command := .redirected line first [(2, .copy, [.text ['1'] false])]
      stagesFrom fuel (.pipe both (← command fuel))
    else return first

def command : (fuel : Nat) → Reading Command
  | 0 => unexpected true none
  | fuel + 1 => do
    let finish (body : Command) : Reading Command := do
      let start := (← get).line
      match ← redirects (scripts fuel) ((← get).rest.length + 1) with
      | [] => return body
      | found => return .redirected start body found
    replaceNext true
    let token ← peek
    let start := (← get).line
    let isExpression := (← get).dialect = .bash && (← get).rest.take 2 = ['(', '('] &&
      closesTwice 0 ((← get).rest.drop 2)
    if isExpression then
      Word.pass 2
      return ← finish (.calculate start (← Word.readIn (.sum 0) (scripts fuel)))
    if isOperator token "(" then
      take
      let body ← list fuel false
      expectOperator ")"
      return ← finish (.apart start body)
    match ← keyword? with
    | none =>
      if token = .word || token matches .redirect .. then simple fuel else unexpected true none
    | some word =>
      match word with
      | "\x7b" =>
        Word.pass word.length
        let body ← list fuel false
        expect "\x7d"
        finish body
      | "if" =>
        Word.pass word.length
        finish (← branches fuel)
      | "while" | "until" =>
        Word.pass word.length
        let condition ← list fuel false
        expect "do"
        let body ← list fuel false
        expect "done"
        finish (.loop (word = "while") condition body)
      | "[[" =>
        Word.pass word.length
        finish (.judge start (← test (scripts fuel)))
      | "function" =>
        Word.pass word.length
        if (← peek) != .word then unexpected true none
        let name := (Word.plain? (← Word.read (scripts fuel))).getD []
        if isOperator (← peek) "(" then
          take
          expectOperator ")"
        newlines (scripts fuel)
        return .define name (← command fuel)
      | "for" | "select" =>
        Word.pass word.length
        let _ ← peek
        if word = "for" && (← get).dialect = .bash && (← get).rest.take 2 = ['(', '('] then
          Word.pass 2
          let parts := cutExpression (← Word.readIn (.sum 0) (scripts fuel))
          if isOperator (← peek) ";" then take
          newlines (scripts fuel)
          let body ← if (← keyword?) = some "\x7b" then do
              Word.pass 1
              let body ← list fuel false
              expect "\x7d"
              pure body
            else do
              expect "do"
              let body ← list fuel false
              expect "done"
              pure body
          return ← finish (.counting start (parts.headD []) ((parts[1]?).getD [])
            ((parts[2]?).getD []) body)
        let isWord := (← peek) = .word
        let name := (Word.plain? (← if isWord then Word.read (scripts fuel) else pure [])).getD []
        if (← get).dialect = .bash then
          unless isWord do unexpected true none
        else unless Octets.isName name do Word.refuse "Bad for loop variable"
        newlines (scripts fuel)
        let words ← if (← keyword?) = some "in" then do
            Word.pass 2
            let words ← listed (scripts fuel) ((← get).rest.length + 1)
            match ← peek with
            | .lineEnd => pure ()
            | .operator [';'] => take
            | _ => unexpected false none
            pure words
          else do
            if isOperator (← peek) ";" then take
            pure [[.parameter ['@'] [] [] true]]
        newlines (scripts fuel)
        expect "do"
        let body ← list fuel false
        expect "done"
        finish (if word = "for" then .forEach start name words body else .pick start name words body)
      | "case" =>
        Word.pass word.length
        unless (← peek) = .word do unexpected false (some "word")
        let subject ← Word.read (scripts fuel)
        newlines (scripts fuel)
        expect "in"
        finish (.choose start subject (← cases fuel))
      | _ => unexpected true none

def simple : (fuel : Nat) → Reading Command
  | 0 => unexpected true none
  | fuel + 1 => do
    let s ← get
    let found ← parts (scripts fuel) s.room {}
    let start := s.line
    match found.assignments, found.words, found.redirects with
    | [], [name], [] =>
      if isOperator (← peek) "(" then
        take
        expectOperator ")"
        let name := (Word.plain? name).getD []
        unless (← get).dialect = .bash ||
            (Octets.isName name && !specialCommands.contains (String.ofList name)) do
          Word.refuse "Bad function name"
        newlines (scripts fuel)
        return .define name (← command fuel)
    | _, _, _ => pure ()
    return .simple start found.assignments.reverse found.words.reverse found.redirects.reverse

def branches : (fuel : Nat) → Reading Command
  | 0 => unexpected true none
  | fuel + 1 => do
    let condition ← list fuel false
    expect "then"
    let yes ← list fuel false
    match ← keyword? with
    | some "elif" =>
      Word.pass 4
      return .branch condition yes (← branches fuel)
    | some "else" =>
      Word.pass 4
      let no ← list fuel false
      expect "fi"
      return .branch condition yes no
    | _ =>
      expect "fi"
      return .branch condition yes .nothing

def cases : (fuel : Nat) → Reading (List Branch)
  | 0 => unexpected true none
  | fuel + 1 => do
    newlines (scripts fuel)
    if (← keyword?) = some "esac" then
      Word.pass 4
      return []
    if isOperator (← peek) "(" then take
    let words ← patterns (scripts fuel) ((← get).rest.length + 1)
    let body ← list fuel true
    newlines (scripts fuel)
    if (← keyword?) = some "esac" then
      Word.pass 4
      return [(words, body, .done)]
    let token ← peek
    let ending : BranchEnd := if isOperator token ";&" then .through
      else if isOperator token ";;&" then .again else .done
    unless ending != .done || isOperator token ";;" do unexpected true (some "\";;\"")
    take
    return (words, body, ending) :: (← cases fuel)

def enclosed : (fuel : Nat) → Reading Command
  | 0 => unexpected true none
  | fuel + 1 => do
    let body ← list fuel true
    expectOperator ")"
    return body

def whole : (fuel : Nat) → Reading Command
  | 0 => unexpected true none
  | fuel + 1 => do
    let body ← list fuel true
    if (← peek) = .done then
      Word.documents (scripts fuel)
      return body
    unexpected true none

def scripts : (fuel : Nat) → Scripts
  | 0 => ⟨unexpected true none, unexpected true none⟩
  | fuel + 1 => ⟨enclosed fuel, whole fuel⟩
end

def next : Reading (Option Command) := do
  let fuel := 8 * (← get).room + 16
  newlines (scripts fuel)
  if (← peek) = .done then return none
  let found ← line fuel
  take
  Word.documents (scripts fuel)
  return some found

end SvelteTransform.Sandbox.Shell.Script
