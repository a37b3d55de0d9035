import SvelteTransform.Sandbox.Awk.Kinds
import SvelteTransform.Sandbox.Awk.Search
import SvelteTransform.Sandbox.Awk.Token

/-! Reading a program from its tokens. -/
namespace SvelteTransform.Sandbox.Awk

structure Reader where
  left : List Lexeme
  kinds : Kinds
  function : Option Octets := none
  parameters : List Octets := []
  functions : List (Octets × List Octets) := []
  calls : List (Octets × Nat × Nat) := []
  loops : Nat := 0
  inRule : Bool := false
  ranges : Nat := 0
  noted : List Octets := []

abbrev Read := StateT Reader (Except (List Octets))

namespace Parser

def current : Read Lexeme :=
  return (← get).left.headD ⟨.finish, 0, [], 0, 0⟩

def advance : Read Unit := modify fun r => { r with left := r.left.tail }

def note (text : Octets) : Read Unit := modify fun r => { r with noted := r.noted ++ [text] }

def giveUp {α : Type} (text : Octets) : Read α := do throw ((← get).noted ++ [text])

def complain {α : Type} (line : Nat) (text : Octets) : Read α :=
  giveUp (Octets.say s!"line {line}: " ++ text)

def refuse {α : Type} : Read α := do
  let at_ ← current
  let missing (sign : String) : Read α :=
    complain at_.line (Octets.say s!"missing {sign} near " ++ at_.shown)
  let plain : Read α := complain at_.line (Octets.say "syntax error at or near " ++ at_.shown)
  match at_.token with
  | .broken message => giveUp message
  | .stop => if at_.parentheses != 0 then missing ")" else plain
  | .finish => if at_.braces != 0 then missing "\x7d" else plain
  | .keyword word => if at_.braces != 0 && (word = "BEGIN" || word = "END") then missing "\x7d" else plain
  | .sign mark => if mark = "\x7d" && at_.parentheses != 0 then missing ")" else plain
  | _ => plain

def isSign (sign : String) : Read Bool := do
  match (← current).token with
  | .sign mark => return mark = sign
  | _ => return false

def isKeyword (word : String) : Read Bool := do
  match (← current).token with
  | .keyword other => return other = word
  | _ => return false

def passes (sign : String) : Read Bool := do
  if ← isSign sign then
    advance
    return true
  else return false

def expect (sign : String) : Read Unit := do
  unless ← passes sign do refuse

def isStop : Read Bool := do
  match (← current).token with
  | .stop => return true
  | _ => return false

def stop : Read Unit := do
  if ← isStop then advance else refuse

def semicolon : Read Unit := do
  if (← isStop) && (← current).shown = [';'] then advance else refuse

def isLineEnd : Read Bool := do
  return (← isStop) && (← current).shown = Octets.say "end of line"

def skipLine : Read Unit := do
  if ← isLineEnd then advance

def inScope (name : Octets) : Read Scoped := do
  let r ← get
  return ⟨if r.parameters.contains name then r.function else none, name⟩

def illegal {α : Type} (line : Nat) (name : Scoped) (kind : String) : Read α :=
  let kind := if name.function.isSome then s!"local {kind}" else kind
  complain line (Octets.say s!"illegal reference to {kind} " ++ name.name)

def useScalar (line : Nat) (name : Octets) : Read Unit := do
  let name ← inScope name
  let k := (← get).kinds
  if k.arrays.contains name then illegal line name "array"
  unless k.scalars.contains name do
    modify fun r => { r with kinds := { r.kinds with scalars := name :: r.kinds.scalars } }

def useArray (line : Nat) (name : Octets) : Read Unit := do
  let name ← inScope name
  let k := (← get).kinds
  if k.scalars.contains name then illegal line name "variable"
  unless k.arrays.contains name do
    modify fun r => { r with kinds := { r.kinds with arrays := name :: r.kinds.arrays } }

def array : Read Octets := do
  match ← current with
  | ⟨.name name, line, _, _, _⟩ => do
    advance
    useArray line name
    return name
  | _ => refuse

def regex (line : Nat) (text : Octets) : Read Regex := do
  match Search.read text with
  | .ok r => return r
  | .error flaw =>
    note (Octets.say s!"line {line}: regular expression compile failed ({flaw.text})\n" ++ text)
    return .empty

def pattern : Expr → Read Expr
  | .text t => do return .regex (← regex (← current).line t)
  | e => return e

def bounds : Builtin → Nat × Option Nat
  | .length | .srand | .flush => (0, some 1)
  | .substr | .split | .sub | .gsub => (2, some 3)
  | .index | .match_ | .atan2 => (2, some 2)
  | .rand => (0, some 0)
  | .sprintf => (1, none)
  | _ => (1, some 1)

def comparison? : Token → Option Comparison
  | .sign "<" => some .less
  | .sign "<=" => some .lessOrEqual
  | .sign "==" => some .equal
  | .sign "!=" => some .different
  | .sign ">=" => some .greaterOrEqual
  | .sign ">" => some .greater
  | _ => none

def sum? : Token → Option Arithmetic
  | .sign "+" => some .add
  | .sign "-" => some .subtract
  | _ => none

def product? : Token → Option Arithmetic
  | .sign "*" => some .multiply
  | .sign "/" => some .divide
  | .sign "%" => some .remainder
  | _ => none

def assignment? : Token → Option (Option Arithmetic)
  | .sign "=" => some none
  | .sign "+=" => some (some .add)
  | .sign "-=" => some (some .subtract)
  | .sign "*=" => some (some .multiply)
  | .sign "/=" => some (some .divide)
  | .sign "%=" => some (some .remainder)
  | .sign "^=" => some (some .power)
  | _ => none

def beginsOperand : Token → Bool
  | .number _ | .text _ | .regex _ | .name _ | .called _ | .builtin _ => true
  | .keyword word => word = "getline"
  | .sign mark => ["$", "!", "(", "++", "--"].contains mark
  | _ => false

def chain (operator : Token → Option (Expr → Expr → Expr)) (operand : Read Expr) :
    (fuel : Nat) → Expr → Read Expr
  | 0, left => return left
  | fuel + 1, left => do
    match operator (← current).token with
    | none => return left
    | some join =>
      advance
      chain operator operand fuel (join left (← operand))

def size : Read Nat := return (← get).left.length

def chained (operator : Token → Option (Expr → Expr → Expr)) (operand : Read Expr) : Read Expr := do
  let left ← operand
  chain operator operand (← size) left

def bareName? (followers : List String) : Read (Option Octets) := do
  match (← get).left with
  | ⟨.name name, _, _, _, _⟩ :: ⟨.sign mark, _, _, _, _⟩ :: _ =>
    return if followers.contains mark then some name else none
  | _ => return none

def isCount : Expr → Bool
  | .scalar name => name = "NF".toList
  | .grouped inside => isCount inside
  | _ => false

def countStep : Read Bool := do
  let isNamed (name : Octets) : Bool := name = "NF".toList
  let isStep (mark : String) : Bool := mark = "++" || mark = "--"
  let ahead : List Token := ((← get).left.take 4).map (·.token)
  match ahead with
  | .name name :: .sign mark :: _ => return isNamed name && isStep mark
  | [.sign "(", .name name, .sign ")", .sign mark] => return isNamed name && isStep mark
  | _ => return false

mutual
def expr : (fuel : Nat) → Read Expr
  | 0 => refuse
  | fuel + 1 => do
    let condition ← chained (fun token => match token with
      | .sign "||" => some .either
      | _ => none) (both fuel)
    if ← passes "?" then
      let yes ← expr fuel
      expect ":"
      return .choice condition yes (← expr fuel)
    return condition

def both : (fuel : Nat) → Read Expr
  | 0 => refuse
  | fuel + 1 => chained (fun token => match token with
      | .sign "&&" => some .both
      | _ => none) (contained fuel)

def contained : (fuel : Nat) → Read Expr
  | 0 => refuse
  | fuel + 1 => do
    let mut found ← compared fuel
    for _ in List.range (← size) do
      if ← passes "~" then found := .matches_ found (← pattern (← compared fuel))
      else if ← passes "!~" then found := .not_ (.matches_ found (← pattern (← compared fuel)))
      else break
    for _ in List.range (← size) do
      if ← isKeyword "in" then
        advance
        found := .holds (← array) [found]
      else break
    return found

def compared : (fuel : Nat) → Read Expr
  | 0 => refuse
  | fuel + 1 => chained (fun token => (comparison? token).map Expr.compare) (joined fuel)

def joined : (fuel : Nat) → Read Expr
  | 0 => refuse
  | fuel + 1 => do
    let mut found ← sum fuel
    for _ in List.range (← size) do
      if beginsOperand (← current).token then
        found := .join found (← sum fuel)
      else break
    match assignment? (← current).token with
    | none => return found
    | some how =>
      unless found.isPlace do refuse
      advance
      let value ← expr fuel
      return match how with
        | none => .assign found value
        | some how => .update found how value

def sum : (fuel : Nat) → Read Expr
  | 0 => refuse
  | fuel + 1 => chained (fun token => (sum? token).map Expr.arithmetic) (product fuel)

def product : (fuel : Nat) → Read Expr
  | 0 => refuse
  | fuel + 1 => chained (fun token => (product? token).map Expr.arithmetic) (unary fuel)

def unary : (fuel : Nat) → Read Expr
  | 0 => refuse
  | fuel + 1 => do
    if ← passes "!" then return .not_ (← unary fuel)
    else if ← passes "-" then return .negative (← unary fuel)
    else if ← passes "+" then return .positive (← unary fuel)
    else
      let mut found ← power fuel
      for _ in List.range (← size) do
        match (← get).left with
        | ⟨.sign "|", _, _, _, _⟩ :: ⟨.keyword "getline", _, _, _, _⟩ :: _ =>
          advance
          advance
          found := .readCommand (← target fuel) found
        | _ => break
      return found

def power : (fuel : Nat) → Read Expr
  | 0 => refuse
  | fuel + 1 => do
    let base ← stepped fuel
    if ← passes "^" then
      let signed := (← isSign "-") || (← isSign "+") || (← isSign "!")
      return .arithmetic .power base (← if signed then unary fuel else power fuel)
    return base

def stepped : (fuel : Nat) → Read Expr
  | 0 => refuse
  | fuel + 1 => do
    let found ← primary fuel
    if found.isPlace || isCount found then
      if ← passes "++" then return .step found true false
      if ← passes "--" then return .step found false false
    return found

def target : (fuel : Nat) → Read (Option Expr)
  | 0 => refuse
  | fuel + 1 => do
    match (← current).token with
    | .name _ | .sign "$" => return some (← primary fuel)
    | _ => return none

def place : (fuel : Nat) → Read Expr
  | 0 => refuse
  | fuel + 1 => do
    match (← current).token with
    | .name _ | .sign "$" | .sign "(" =>
      let found ← primary fuel
      unless found.isPlace do refuse
      return found
    | _ => refuse

def primary : (fuel : Nat) → Read Expr
  | 0 => refuse
  | fuel + 1 => do
    let at_ ← current
    match at_.token with
    | .number x =>
      advance
      return .number x
    | .text t =>
      advance
      return .text t
    | .regex t =>
      advance
      return .regex (← regex at_.line t)
    | .name name =>
      advance
      if ((← get).functions.lookup name).isSome then call fuel at_.line name
      else if ← passes "[" then
        useArray at_.line name
        let subscripts ← list fuel
        expect "]"
        return .element name subscripts
      else
        useScalar at_.line name
        return .scalar name
    | .called name =>
      advance
      call fuel at_.line name
    | .builtin function =>
      advance
      builtin fuel at_.line at_.shown function
    | .keyword "getline" =>
      advance
      let target ← target fuel
      if ← passes "<" then return .readFile target (← power fuel)
      return .read target
    | .sign "$" =>
      advance
      if ← passes "++" then return .field (.step (← place fuel) true true)
      if ← passes "--" then return .field (.step (← place fuel) false true)
      if ← passes "-" then return .field (.negative (← primary fuel))
      if ← passes "+" then return .field (.positive (← primary fuel))
      if ← passes "!" then return .field (.not_ (← primary fuel))
      if ← countStep then return .field (← stepped fuel)
      let index ← current
      match index.token with
      | .number x =>
        if x.floor != x then
          complain index.line ('$' :: index.shown ++ Octets.say " is invalid field index")
      | _ => pure ()
      return .field (← primary fuel)
    | .sign "++" =>
      advance
      return .step (← place fuel) true true
    | .sign "--" =>
      advance
      return .step (← place fuel) false true
    | .sign "(" =>
      advance
      let first ← expr fuel
      if ← passes "," then
        let more ← list fuel
        expect ")"
        unless ← isKeyword "in" do refuse
        advance
        return .holds (← array) (first :: more)
      expect ")"
      return .grouped first
    | _ => refuse

def list : (fuel : Nat) → Read (List Expr)
  | 0 => refuse
  | fuel + 1 => do
    let first ← expr fuel
    if ← passes "," then return first :: (← list fuel)
    return [first]

def call : (fuel : Nat) → (line : Nat) → (name : Octets) → Read Expr
  | 0, _, _ => refuse
  | fuel + 1, line, name => do
    expect "("
    let given ← if ← isSign ")" then pure [] else arguments fuel line name 0
    expect ")"
    modify fun r => { r with calls := r.calls ++ [(name, given.length, line)] }
    return .call name given

def arguments : (fuel : Nat) → (line : Nat) → (name : Octets) → (place : Nat) → Read (List Expr)
  | 0, _, _, _ => refuse
  | fuel + 1, line, name, place => do
    let bare ← bareName? [",", ")"]
    let passed : Passed := ⟨← bare.mapM inScope, name, place, line⟩
    modify fun r => { r with kinds := { r.kinds with passed := r.kinds.passed ++ [passed] } }
    let first ← match bare with
      | some bare => do
        advance
        pure (Expr.scalar bare)
      | none => expr fuel
    if ← passes "," then return first :: (← arguments fuel line name (place + 1))
    return [first]

def builtin : (fuel : Nat) → (line : Nat) → (shown : Octets) → Builtin → Read Expr
  | 0, _, _, _ => refuse
  | fuel + 1, line, shown, function => do
    let special : Read (List Expr) := do
      let first ← expr fuel
      expect ","
      match function with
      | .split =>
        let array ← array
        let more ← if ← passes "," then list fuel else pure []
        return first :: .scalar array :: more
      | _ =>
        let first ← pattern first
        let second ← expr fuel
        let more ← if ← passes "," then pure [← place fuel] else pure []
        return first :: second :: more
    match function with
    | .length =>
      unless ← passes "(" do return .builtin .length []
      if ← passes ")" then return .builtin .length []
      let argument ← match ← bareName? [")"] with
        | some bare => do
          advance
          pure (Expr.scalar bare)
        | none => expr fuel
      expect ")"
      return .builtin .length [argument]
    | .split | .sub | .gsub =>
      expect "("
      let given ← special
      expect ")"
      return .builtin function given
    | _ =>
      expect "("
      let given ← if ← isSign ")" then pure [] else list fuel
      expect ")"
      let (least, most) := bounds function
      if given.length < least || most.any (· < given.length) then
        complain line (Octets.say "wrong number of arguments in call to " ++ shown)
      let given ← match function, given with
        | .match_, [text, sought] => do pure [text, ← pattern sought]
        | _, given => pure given
      return .builtin function given
end

def expression : Read Expr := do expr (20 * (← size) + 20)

def expressions : Read (List Expr) := do list (20 * (← size) + 20)

def endsItems : Read Bool := do
  match (← current).token with
  | .stop | .goal _ => return true
  | _ => return false

def enclosed? : Read (Option (List Expr)) := fun r =>
  let attempt : Read (Option (List Expr)) := do
    unless ← passes "(" do return none
    if ← passes ")" then return if ← endsItems then some [] else none
    let items ← expressions
    unless ← passes ")" do return none
    return if ← endsItems then some items else none
  match attempt.run r with
  | .ok (some items, r) => .ok (some items, r)
  | _ => .ok (none, r)

def items : Read (List Expr) := do
  if ← endsItems then return []
  match ← enclosed? with
  | some items => return items
  | none => expressions

def goal : Read (Option Goal) := do
  match (← current).token with
  | .goal sign =>
    advance
    let e ← expression
    return some (if sign = "|" then .command e else .file e (sign = ">>"))
  | _ => return none

def optional : Read (Option Expr) := do
  if ← isStop then return none else return some (← expression)

def looping {α : Type} (body : Read α) : Read α := do
  modify fun r => { r with loops := r.loops + 1 }
  let a ← body
  modify fun r => { r with loops := r.loops - 1 }
  return a

def lone (fits : Bool) (text : String) (s : Statement) : Read Statement := do
  let at_ ← current
  unless fits do complain at_.line (Octets.say text)
  advance
  stop
  return s

def simple : Read Statement := do
  let at_ ← current
  match at_.token with
  | .keyword "print" =>
    advance
    let items ← items
    let goal ← goal
    stop
    return .print items goal
  | .keyword "printf" =>
    advance
    let items ← items
    if items.isEmpty then complain at_.line (Octets.say "no arguments in call to printf")
    let goal ← goal
    stop
    return .printf items goal
  | .keyword "next" => lone (← get).inRule "improper use of next" .next
  | .keyword "nextfile" => lone (← get).inRule "improper use of nextfile" .nextFile
  | .keyword "break" => lone ((← get).loops != 0) "break statement outside of loop" .leave
  | .keyword "continue" => lone ((← get).loops != 0) "continue statement outside of loop" .again
  | .keyword "exit" =>
    advance
    let status ← optional
    stop
    return .exit status
  | .keyword "return" =>
    if (← get).function.isNone then complain at_.line (Octets.say "return outside function body")
    advance
    let value ← optional
    stop
    return .giveBack value
  | .keyword "delete" =>
    advance
    let array ← array
    if ← passes "[" then
      let subscripts ← expressions
      expect "]"
      stop
      return .delete array subscripts
    stop
    return .clear array
  | _ =>
    let e ← expression
    stop
    return .expression e

def heading : Read Expr := do
  expect "("
  let e ← expression
  expect ")"
  skipLine
  return e

mutual
def statement : (fuel : Nat) → Read Statement
  | 0 => refuse
  | fuel + 1 => do
    match (← current).token with
    | .sign "\x7b" => block fuel
    | .sign "\x7d" => return .nothing
    | .stop =>
      advance
      return .nothing
    | .keyword "if" =>
      advance
      let condition ← heading
      let yes ← statement fuel
      if ← isKeyword "else" then
        advance
        return .branch condition yes (← statement fuel)
      return .branch condition yes .nothing
    | .keyword "while" =>
      advance
      let condition ← heading
      return .loop condition (← looping (statement fuel)) .nothing
    | .keyword "do" =>
      advance
      let body ← looping (statement fuel)
      unless ← isKeyword "while" do refuse
      advance
      expect "("
      let condition ← expression
      expect ")"
      stop
      return .loopAfter body condition
    | .keyword "for" =>
      advance
      expect "("
      match (← get).left with
      | ⟨.name name, line, _, _, _⟩ :: ⟨.keyword "in", _, _, _, _⟩ :: _ =>
        useScalar line name
        advance
        advance
        let array ← array
        expect ")"
        skipLine
        return .forEach name array (← looping (statement fuel))
      | _ =>
        let first ← optional
        semicolon
        let condition ← optional
        semicolon
        let step ← if ← isSign ")" then pure none else some <$> expression
        expect ")"
        skipLine
        let run (e : Option Expr) : Statement := (e.map Statement.expression).getD .nothing
        let body ← looping (statement fuel)
        return .sequence (run first) (.loop (condition.getD (.number 1)) body (run step))
    | _ => simple

def block : (fuel : Nat) → Read Statement
  | 0 => refuse
  | fuel + 1 => do
    expect "\x7b"
    statements fuel

def statements : (fuel : Nat) → Read Statement
  | 0 => refuse
  | fuel + 1 => do
    if ← passes "\x7d" then return .nothing
    let first ← statement fuel
    return .sequence first (← statements fuel)
end

def action : Read Statement := do
  unless ← isSign "\x7b" do refuse
  block (2 * (← size) + 2)

def parameters : (fuel : Nat) → List Octets → Read (List Octets)
  | 0, _ => refuse
  | fuel + 1, before => do
    let at_ ← current
    match at_.token with
    | .name name =>
      if before.contains name then
        complain at_.line (name ++ Octets.say " is duplicated in argument list")
      if (← get).function = some name then
        complain at_.line (Octets.say "function parameter cannot be the function")
      advance
      let names := before ++ [name]
      if ← passes "," then parameters fuel names
      else
        expect ")"
        return names
    | _ => refuse

def function : Read (Octets × List Octets × Statement) := do
  let at_ ← current
  match at_.token with
  | .name name | .called name =>
    advance
    if ((← get).functions.lookup name).isSome then
      complain at_.line (Octets.say "redefinition of " ++ name)
    if (← get).kinds.scalars.contains ⟨none, name⟩ then
      complain at_.line (Octets.say "illegal reference to variable " ++ name)
    modify ({ · with function := some name, parameters := [] })
    expect "("
    let names ← if ← passes ")" then pure [] else parameters (← size) []
    skipLine
    modify fun r => { r with parameters := names, functions := r.functions ++ [(name, names)] }
    let body ← action
    modify ({ · with function := none, parameters := [] })
    return (name, names, body)
  | _ => refuse

def rule : Read Rule := do
  let inside : Read Statement := do
    modify ({ · with inRule := true })
    let body ← action
    modify ({ · with inRule := false })
    return body
  if ← isSign "\x7b" then return ⟨.always, some (← inside)⟩
  let first ← expression
  let pattern ← if ← passes "," then
      let last ← expression
      let number := (← get).ranges
      modify ({ · with ranges := number + 1 })
      pure (Pattern.between number first last)
    else pure (Pattern.holds first)
  if ← isSign "\x7b" then return ⟨pattern, some (← inside)⟩
  stop
  return ⟨pattern, none⟩

def parts : (fuel : Nat) → Program → List (Octets × List Octets × Statement) →
    Read (Program × List (Octets × List Octets × Statement))
  | 0, _, _ => refuse
  | fuel + 1, p, functions => do
    match (← current).token with
    | .finish => return (p, functions)
    | .broken message =>
      note message
      advance
      parts fuel p functions
    | .keyword "BEGIN" =>
      advance
      let body ← action
      parts fuel { p with beginning := p.beginning ++ [body] } functions
    | .keyword "END" =>
      advance
      let body ← action
      parts fuel { p with ending := p.ending ++ [body] } functions
    | .keyword "function" =>
      advance
      let f ← function
      parts fuel p (functions ++ [f])
    | _ =>
      let rule ← rule
      parts fuel { p with rules := p.rules ++ [rule] } functions

def program : Read Program := do
  let (p, functions) ← parts (← size) {} []
  let last := (← current).line
  let r ← get
  for (name, count, line) in r.calls do
    match r.functions.lookup name with
    | none => complain last (Octets.say "function " ++ name ++ Octets.say " never defined")
    | some names =>
      if names.length < count then
        complain line (Octets.say "too many arguments in call to " ++ name)
  unless r.noted.isEmpty do throw r.noted
  let kinds := r.kinds.settle r.functions
  for p in kinds.passed do
    if let some (actual, expected) := kinds.mismatch? r.functions p then
      complain p.line (Octets.say s!"type error in arg({p.place + 1}) in call to " ++ p.function ++
        Octets.say s!" (actual local {actual} vs local {expected})")
  let isArray (function name : Octets) : Bool := kinds.arrays.contains ⟨some function, name⟩
  return { p with
    functions := functions.map fun (name, names, body) =>
      ⟨name, names.map fun parameter => (parameter, isArray name parameter), body⟩
    arrays := kinds.arrays.filterMap fun s => if s.function.isNone then some s.name else none }

end Parser

def specialNames : List String :=
  ["NR", "NF", "FNR", "FS", "OFS", "RS", "ORS", "SUBSEP", "CONVFMT", "OFMT", "RSTART", "RLENGTH",
   "FILENAME", "ARGC"]

def Program.ofText (text : Octets) : Except (List Octets) Program :=
  let outside (name : String) : Scoped := ⟨none, name.toList⟩
  let kinds : Kinds := {
    scalars := specialNames.map outside, arrays := ["ARGV", "ENVIRON"].map outside }
  (Parser.program.run { left := Lexeme.ofText text, kinds }).map (·.1)

end SvelteTransform.Sandbox.Awk
