import SvelteTransform.Sandbox.Shell.Larger.Declare
import SvelteTransform.Sandbox.Tools.Condition

/-! Conditions of the larger dialect: between single brackets as arguments, and between double ones
as words that are looked at only when they are needed. -/
namespace SvelteTransform.Sandbox.Shell
open Tools (Condition.Questions)

def unaryLetters : List Char := "abcdefghknoprstuvwxzGLNORS".toList

def isSet (text : Octets) : Action Bool := do
  let s ← get
  match spelledSelection text with
  | none => return false
  | some (name, selected) =>
    match selected, s.items? name with
    | .all _, some items => return items.size != 0
    | .all _, none => return (s.value? name).isSome
    | .single, _ => return (s.parameter? name).isSome
    | .element subscript, _ =>
      match ← keyOf name subscript with
      | some key => return (s.element? name key).isSome
      | none => return false

def askUnary (letter : Char) (operand : Octets) : Action Bool := do
  let s ← get
  let q : Condition.Questions :=
    { files := s.world.files, here := s.here, missingIsOld := true }
  match letter with
  | 'v' => isSet operand
  | 'R' => return (s.bindings.lookup operand).any (·.marks.contains 'n')
  | 'o' =>
    return match largerOptions.find? (·.1.toList = operand) with
      | some option => s.isOptionOn option
      | none => false
  | 't' => return false
  | 'a' => return Tools.Condition.asked q 'e' operand
  | 'N' => return Tools.Condition.asked q 'e' operand && !(Tools.Condition.asked q 'd' operand)
  | letter => return Tools.Condition.asked q letter operand

def askBinary (operator : String) (left right : Octets) : Action Bool := do
  let s ← get
  let q : Condition.Questions :=
    { files := s.world.files, here := s.here, missingIsOld := true }
  let name := if operator = "==" then "=" else operator
  return match Tools.Condition.compared q name left right with
    | .ok holds => holds
    | .error _ => false

def compareNumbers (operator : String) (a b : Int) : Bool :=
  match operator with
  | "-eq" => a = b
  | "-ne" => a != b
  | "-lt" => a < b
  | "-le" => a ≤ b
  | "-gt" => b < a
  | _ => b ≤ a

def isNumeric (operator : String) : Bool :=
  ["-eq", "-ne", "-lt", "-le", "-gt", "-ge"].contains operator

def wrongTest {α : Type} (text : Octets) : Action α := do
  complain text
  finish 2
  throw .failed

def testNumber (text : Octets) : Action Int := do
  match Tools.Condition.number text with
  | .ok n => return n
  | .error _ => wrongTest (text ++ Octets.say ": integer expression expected")

def binaryOperator? (text : Octets) : Option String :=
  (["=", "==", "!=", "<", ">", "-eq", "-ne", "-lt", "-le", "-gt", "-ge", "-nt", "-ot", "-ef"].find?
    (·.toList = text))

def testBinary (operator : String) (left right : Octets) : Action Bool := do
  if isNumeric operator then
    let a ← testNumber left
    return compareNumbers operator a (← testNumber right)
  askBinary operator left right

def isUnary (text : Octets) : Bool :=
  match text with
  | ['-', c] => unaryLetters.contains c
  | _ => false

def testUnary (operator operand : Octets) : Action Bool :=
  askUnary ((operator[1]?).getD ' ') operand

mutual
def testAlternatives : (fuel : Nat) → List Octets → Action (Bool × List Octets)
  | 0, words => return (false, words)
  | fuel + 1, words => do
    let (a, rest) ← testTerms fuel words
    if rest.head? = some ['-', 'o'] then
      let (b, rest) ← testAlternatives fuel rest.tail
      return (a || b, rest)
    return (a, rest)

def testTerms : (fuel : Nat) → List Octets → Action (Bool × List Octets)
  | 0, words => return (false, words)
  | fuel + 1, words => do
    let (a, rest) ← testTerm fuel words
    if rest.head? = some ['-', 'a'] then
      let (b, rest) ← testTerms fuel rest.tail
      return (a && b, rest)
    return (a, rest)

def testTerm : (fuel : Nat) → List Octets → Action (Bool × List Octets)
  | 0, words => return (false, words)
  | fuel + 1, words => do
    match words with
    | [] => wrongTest (Octets.say "argument expected")
    | ['!'] :: rest =>
      let (a, rest) ← testTerm fuel rest
      return (!a, rest)
    | ['('] :: rest =>
      let (a, rest) ← testAlternatives fuel rest
      if rest.head? != some [')'] then wrongTest (Octets.say "\x60)' expected")
      return (a, rest.tail)
    | first :: operator :: second :: rest =>
      match binaryOperator? operator with
      | some name => return (← testBinary name first second, rest)
      | none =>
        if isUnary first then return (← testUnary first operator, second :: rest)
        else return (first != [], operator :: second :: rest)
    | [first, second] =>
      if isUnary first then return (← testUnary first second, [])
      else return (first != [], [second])
    | [first] => return (first != [], [])
end

def testTwo (first second : Octets) : Action Bool := do
  if first = ['!'] then return second = []
  if isUnary first then testUnary first second
  else wrongTest (first ++ Octets.say ": unary operator expected")

def testThree (first operator second : Octets) : Action Bool := do
  match binaryOperator? operator with
  | some name => testBinary name first second
  | none =>
    if operator = ['-', 'a'] then return first != [] && second != []
    else if operator = ['-', 'o'] then return first != [] || second != []
    else if first = ['!'] then return !(← testTwo operator second)
    else if first = ['('] && second = [')'] then return operator != []
    else wrongTest (operator ++ Octets.say ": binary operator expected")

def testHolds (words : List Octets) : Action Bool := do
  let whole (words : List Octets) : Action Bool := do
    let (a, rest) ← testAlternatives (4 * words.length + 4) words
    if rest != [] then wrongTest (Octets.say "too many arguments")
    return a
  match words with
  | [] => return false
  | [text] => return text != []
  | [first, second] => testTwo first second
  | [first, operator, second] => testThree first operator second
  | [first, a, b, c] =>
    if first = ['!'] then return !(← testThree a b c)
    if first = ['('] && c = [')'] then testTwo a b
    else whole words
  | words => whole words

def testLarger (isBracketed : Bool) (arguments : List Octets) : Action Unit := do
  if isBracketed && arguments.getLast? != some [']'] then
    wrongTest (Octets.say "missing \x60]'")
  let holds ← testHolds (if isBracketed then arguments.dropLast else arguments)
  finish (if holds then 0 else 1)

def expressionText (text : List Marked) : Octets :=
  text.flatMap fun (c, active) =>
    if active || Octets.isNamePart c then [c]
    else if "\\^$.[|()*+?\x7b\x7d".toList.contains c then ['\\', c]
    else [c]

def lastGroup : Regex → Nat
  | .group n inside => max n (lastGroup inside)
  | .both first second | .either first second => max (lastGroup first) (lastGroup second)
  | .many inside _ _ => lastGroup inside
  | _ => 0

def rematch : Octets := "BASH_REMATCH".toList

def seek (text : Octets) (expression : List Marked) : Action Bool := do
  let keep (values : List Octets) : Action Unit := modify fun s =>
    s.bind rematch { value := some [], items := some (.ofList values) }
  match Regex.ofText? true (expressionText expression) with
  | none =>
    finish 2
    throw .failed
  | some r =>
    match r.find ((← get).isOn "nocasematch") text with
    | none =>
      keep []
      return false
    | some found =>
      let groups := (List.range (lastGroup r)).map fun i => (found.groups.lookup (i + 1)).getD []
      keep (found.text :: groups)
      return true

def traceTest (words : List Octets) (output : List Octets → Action Unit) : Action Unit :=
  output ([['[', '[']] ++ words ++ [[']', ']']])

def judge (capture : Command → Action Octets) (output : List Octets → Action Unit) :
    (fuel : Nat) → Test → Action Bool
  | 0, _ => throw .spent
  | fuel + 1, test => do
    let text (word : Word) : Action Octets := Expansion.whole capture fuel .word word
    match test with
    | .negated test => return !(← judge capture output fuel test)
    | .both first second =>
      if ← judge capture output fuel first then judge capture output fuel second
      else return false
    | .either first second =>
      if ← judge capture output fuel first then return true
      else judge capture output fuel second
    | .unary operator operand =>
      let value ← text operand
      traceTest [operator, Quoting.traced value] output
      match operator with
      | ['-', c] => askUnary c value
      | _ => return value != []
    | .binary operator left right =>
      let name := String.ofList operator
      let first ← text left
      let second ← Expansion.pattern capture fuel right
      let plain := second.map (·.1)
      traceTest [Quoting.traced first, operator, plain] output
      if name = "=~" then seek first second
      else if isNumeric name then
        let a ← computed first
        return compareNumbers name a (← computed plain)
      else if name = "=" || name = "==" || name = "!=" then
        let m : Wildcard.Manner := { (← get).manner with extended := true }
        return Wildcard.covers m (Wildcard.ofMarked m second) first != (name = "!=" : Bool)
      else askBinary name first plain

end SvelteTransform.Sandbox.Shell
