import SvelteTransform.Sandbox.Numeral
import SvelteTransform.Sandbox.Shell.Arithmetic

/-! Expressions of the larger dialect: powers, steps, numbers of any base up to 64, elements of
arrays, and variables whose values are expressions again. -/
namespace SvelteTransform.Sandbox.Shell.Calculation

structure Names where
  value? : Octets → Option Octets
  element? : Octets → Octets → Option Octets
  isKeyed : Octets → Bool
  next : Octets → Nat
  isStrict : Bool := false

abbrev Place := Octets × Option Octets

inductive Token where
  | number (n : Int)
  | name (name : Octets) (subscript : Option Octets)
  | operator (text : Octets)
  | ending
  deriving DecidableEq

inductive Fault where
  | wrong (expression : Octets) (reason : String) (token : Octets)
  | unbound (name : Octets)

structure Progress where
  expression : Octets
  rest : Octets
  token : Token := .ending
  before : Token := .ending
  place : Octets := []
  changed : List (Place × Octets) := []

abbrev Calculating := StateT Progress (Except Fault)

def wrong {α : Type} (reason : String) : Calculating α := do
  let p ← get
  throw (.wrong (p.expression.dropWhile Octets.isSpace) reason p.place)

def operators : List Octets :=
  ["<<=", ">>=", "**", "<<", ">>", "<=", ">=", "==", "!=", "&&", "||", "+=", "-=", "*=", "/=",
   "%=", "&=", "^=", "|=", "++", "--"].map String.toList

def digit? (base : Nat) (c : Char) : Option Nat :=
  if Octets.isDigit c then some (c.toNat - '0'.toNat)
  else if Octets.isLower c then some (c.toNat - 'a'.toNat + 10)
  else if Octets.isUpper c then some (c.toNat - 'A'.toNat + if base ≤ 36 then 10 else 36)
  else if c = '@' then some 62
  else if c = '_' then some 63
  else none

def digits (base : Nat) (text : Octets) : Calculating Int := do
  let mut n := 0
  for c in text do
    match digit? base c with
    | some d =>
      if base ≤ d then wrong "value too great for base"
      n := n * base + d
    | none => wrong "invalid number"
  return Numeral.wrap n

def spelled (text : Octets) : Calculating Int := do
  let base := text.takeWhile (· != '#')
  if base.length < text.length then
    unless Octets.isNumber base do wrong "invalid number"
    let n := Octets.natural base
    if n < 2 || 64 < n then wrong "invalid arithmetic base"
    if text.length = base.length + 1 then wrong "invalid integer constant"
    digits n (text.drop (base.length + 1))
  else match text with
    | '0' :: x :: rest =>
      if x = 'x' || x = 'X' then digits 16 rest else digits 8 (x :: rest)
    | text => digits 10 text

def subscript : (depth : Nat) → Octets → Option (Octets × Octets)
  | _, [] => none
  | 0, ']' :: rest => some ([], rest)
  | depth, c :: rest =>
    let depth := if c = '[' then depth + 1 else if c = ']' then depth - 1 else depth
    (subscript depth rest).map fun (text, rest) => (c :: text, rest)

def isNumberPart (c : Char) : Bool :=
  Octets.isNamePart c || c = '#' || c = '@'

def advance : Calculating Unit := do
  let p ← get
  let rest := p.rest.dropWhile Octets.isSpace
  let put (token : Token) (length : Nat) : Calculating Unit :=
    set { p with before := p.token, token, place := rest, rest := rest.drop length }
  match rest with
  | [] => set { p with before := p.token, token := .ending, rest := [] }
  | c :: more =>
    if Octets.isNameStart c then
      let name := rest.takeWhile Octets.isNamePart
      match rest.drop name.length with
      | '[' :: after =>
        match subscript 0 after with
        | some (text, left) => put (.name name (some text)) (rest.length - left.length)
        | none =>
          set { p with place := rest }
          wrong "bad array subscript"
      | _ => put (.name name none) name.length
    else if Octets.isDigit c then
      let text := rest.takeWhile isNumberPart
      set { p with place := rest }
      let n ← spelled text
      put (.number n) text.length
    else
      let op := (operators.find? (·.isPrefixOf rest)).getD [c]
      let isStep := op = ['+', '+'] || op = ['-', '-']
      let stepsName := ((more.drop 1).dropWhile Octets.isSpace).head?.any Octets.isNameStart
      let isAfterName := p.token matches .name ..
      if isStep && !isAfterName && !stepsName then put (.operator [c]) 1
      else put (.operator op) op.length

def levels : List (List String) :=
  [["|"], ["^"], ["&"], ["==", "!="], ["<=", ">=", "<", ">"], ["<<", ">>"], ["+", "-"],
   ["*", "/", "%"]]

def assignments : List String :=
  ["=", "*=", "/=", "%=", "+=", "-=", "<<=", ">>=", "&=", "^=", "|="]

def isOperator (token : Token) (text : String) : Bool := token = .operator text.toList

def apply (op : String) (a b : Int) (right : Octets) : Calculating Int := do
  if (op = "/" || op = "%") && b = 0 then
    modify ({ · with place := right.dropWhile Octets.isSpace })
    wrong "division by 0"
  match Arithmetic.apply op a b with
  | .ok n => return n
  | .error _ => return 0

def power (a : Int) : (fuel n : Nat) → Int
  | 0, _ => 1
  | fuel + 1, n =>
    if n = 0 then 1
    else
      let half := power a fuel (n / 2)
      let square := Numeral.wrap (half * half)
      if n % 2 = 0 then square else Numeral.wrap (square * a)

def store (place : Place) (n : Int) : Calculating Unit :=
  modify fun p => { p with changed := (place, Octets.ofInt n) :: p.changed }

section
variable (names : Names)

mutual
def whole : (fuel : Nat) → (live : Bool) → Octets → Calculating Int
  | 0, _, _ => wrong "expression recursion level exceeded"
  | fuel + 1, live, text => do
    if text.all Octets.isSpace then return 0
    let outer ← get
    set ({ expression := text, rest := text, changed := outer.changed } : Progress)
    advance
    let n ← sequence fuel live
    unless (← get).token = .ending do wrong "syntax error in expression"
    set { outer with changed := (← get).changed }
    return n

def sequence : (fuel : Nat) → (live : Bool) → Calculating Int
  | 0, _ => wrong "expression recursion level exceeded"
  | fuel + 1, live => do
    let n ← assignment fuel live
    if isOperator (← get).token "," then
      advance
      sequence fuel live
    else return n

def assignment : (fuel : Nat) → (live : Bool) → Calculating Int
  | 0, _ => wrong "expression recursion level exceeded"
  | fuel + 1, live => do
    let start ← get
    let n ← choice fuel live
    match (← get).token with
    | .operator op =>
      let op := String.ofList op
      if !assignments.contains op then return n
      match start.token, (← get).before with
      | .name name key, .name .. =>
        let right := (← get).rest
        advance
        let m ← assignment fuel live
        if !live then return m
        let m ← if op = "=" then pure m
          else apply (String.ofList op.toList.dropLast) n m right
        store (← placeOf fuel name key) m
        return m
      | _, _ => wrong "attempted assignment to non-variable"
    | _ => return n

def choice : (fuel : Nat) → (live : Bool) → Calculating Int
  | 0, _ => wrong "expression recursion level exceeded"
  | fuel + 1, live => do
    let a ← either fuel live
    if !isOperator (← get).token "?" then return a
    advance
    if (← get).token = .ending || isOperator (← get).token ":" then wrong "expression expected"
    let b ← sequence fuel (live && a != 0)
    unless isOperator (← get).token ":" do wrong "\x60:' expected for conditional expression"
    advance
    if (← get).token = .ending then wrong "expression expected"
    let c ← choice fuel (live && a = 0)
    modify ({ · with before := .ending })
    return if a != 0 then b else c

def either : (fuel : Nat) → (live : Bool) → Calculating Int
  | 0, _ => wrong "expression recursion level exceeded"
  | fuel + 1, live => do
    let a ← both fuel live
    if !isOperator (← get).token "||" then return a
    advance
    let b ← either fuel (live && a = 0)
    return Arithmetic.truth (a != 0 || b != 0)

def both : (fuel : Nat) → (live : Bool) → Calculating Int
  | 0, _ => wrong "expression recursion level exceeded"
  | fuel + 1, live => do
    let a ← level fuel live levels
    if !isOperator (← get).token "&&" then return a
    advance
    let b ← both fuel (live && a != 0)
    return Arithmetic.truth (a != 0 && b != 0)

def level : (fuel : Nat) → (live : Bool) → List (List String) → Calculating Int
  | 0, _, _ => wrong "expression recursion level exceeded"
  | fuel + 1, live, [] => raised fuel live
  | fuel + 1, live, here :: tighter => do
    levelFrom fuel live here tighter (← level fuel live tighter)

def levelFrom : (fuel : Nat) → (live : Bool) → List String → List (List String) → Int →
    Calculating Int
  | 0, _, _, _, _ => wrong "expression recursion level exceeded"
  | fuel + 1, live, here, tighter, a => do
    match (← get).token with
    | .operator op =>
      let op := String.ofList op
      if !here.contains op then return a
      let right := (← get).rest
      advance
      let b ← level fuel live tighter
      let n ← if live then apply op a b right else pure b
      levelFrom fuel live here tighter n
    | _ => return a

def raised : (fuel : Nat) → (live : Bool) → Calculating Int
  | 0, _ => wrong "expression recursion level exceeded"
  | fuel + 1, live => do
    let a ← signed fuel live
    if !isOperator (← get).token "**" then return a
    advance
    let b ← raised fuel live
    if b < 0 then wrong "exponent less than 0"
    return power a 64 b.toNat

def signed : (fuel : Nat) → (live : Bool) → Calculating Int
  | 0, _ => wrong "expression recursion level exceeded"
  | fuel + 1, live => do
    let onwards (change : Int → Int) : Calculating Int := do
      advance
      return change (← signed fuel live)
    match (← get).token with
    | .operator ['!'] => onwards fun n => Arithmetic.truth (n = 0)
    | .operator ['~'] => onwards fun n => -n - 1
    | .operator ['-'] => onwards fun n => Numeral.wrap (-n)
    | .operator ['+'] => onwards id
    | _ => primary fuel live

def primary : (fuel : Nat) → (live : Bool) → Calculating Int
  | 0, _ => wrong "expression recursion level exceeded"
  | fuel + 1, live => do
    match (← get).token with
    | .number n =>
      advance
      return n
    | .name name key =>
      let here ← get
      advance
      let isPut := isOperator (← get).token "="
      let after ← get
      set here
      let n ← if live && !isPut then valueOf fuel name key else pure 0
      set { after with changed := (← get).changed }
      match (← get).token with
      | .operator ['+', '+'] | .operator ['-', '-'] =>
        let step : Int := if isOperator (← get).token "++" then 1 else -1
        if live then store (← placeOf fuel name key) (Numeral.wrap (n + step))
        advance
        modify ({ · with before := .ending })
        return n
      | _ => return n
    | .operator ['+', '+'] | .operator ['-', '-'] =>
      let step : Int := if isOperator (← get).token "++" then 1 else -1
      advance
      match (← get).token with
      | .name name key =>
        let n ← if live then valueOf fuel name key else pure 0
        let n := Numeral.wrap (n + step)
        if live then store (← placeOf fuel name key) n
        advance
        modify ({ · with before := .ending })
        return n
      | _ => wrong "identifier expected after pre-increment or pre-decrement"
    | .operator ['('] =>
      advance
      let n ← sequence fuel live
      unless isOperator (← get).token ")" do wrong "missing \x60)'"
      advance
      modify ({ · with before := .ending })
      return n
    | _ => wrong "syntax error: operand expected"

def placeOf : (fuel : Nat) → Octets → Option Octets → Calculating Place
  | 0, _, _ => wrong "expression recursion level exceeded"
  | _, name, none => return (name, none)
  | fuel + 1, name, some text => do
    if names.isKeyed name then return (name, some text)
    let n ← whole fuel true text
    let n := if n < 0 then n + names.next name else n
    if n < 0 then wrong "bad array subscript"
    return (name, some (Octets.ofInt n))

def valueOf : (fuel : Nat) → Octets → Option Octets → Calculating Int
  | 0, _, _ => wrong "expression recursion level exceeded"
  | fuel + 1, name, key => do
    let place ← placeOf fuel name key
    let held := match (← get).changed.lookup place with
      | some value => some value
      | none => match place.2 with
        | none => names.value? name
        | some key => names.element? name key
    match held with
    | some text => whole fuel true text
    | none =>
      if names.isStrict then throw (.unbound name)
      return 0
end

def evaluate (text : Octets) : Except Fault (Int × List (Place × Octets)) :=
  match (whole names (16 * text.length + 4096) true text).run { expression := text, rest := text } with
  | .ok (n, p) => .ok (n, p.changed.reverse)
  | .error fault => .error fault

end

def Fault.message : Fault → Octets
  | .wrong expression reason token =>
    expression ++ Octets.say s!": {reason} (error token is \"" ++ token ++ Octets.say "\")"
  | .unbound name => name ++ Octets.say ": unbound variable"

end SvelteTransform.Sandbox.Shell.Calculation
