import SvelteTransform.Sandbox.Numeral
import SvelteTransform.Sandbox.World

/-! Conditions: comparisons and questions about files, joined by `-a`, `-o` and `!`. -/
namespace SvelteTransform.Sandbox.Tools.Condition

inductive Operator where
  | unary (letter : Char)
  | binary (name : String)
  | negation
  | both
  | either
  | opening
  | closing
  deriving DecidableEq

def unaryLetters : List Char := "rwxefdcbpugkstznhOGLS".toList

def binaryNames : List String :=
  ["=", "!=", "<", ">", "-eq", "-ne", "-ge", "-gt", "-le", "-lt", "-nt", "-ot", "-ef"]

def operator? (text : Octets) : Option Operator :=
  match text with
  | ['!'] => some .negation
  | ['-', 'a'] => some .both
  | ['-', 'o'] => some .either
  | ['('] => some .opening
  | [')'] => some .closing
  | ['-', c] =>
    if unaryLetters.contains c then some (.unary c)
    else none
  | text => (binaryNames.find? (·.toList = text)).map .binary

def isBinary (text : Octets) : Bool :=
  match operator? text with
  | some (.binary _) => true
  | _ => false

structure Questions where
  files : Files
  here : Inode
  missingIsOld : Bool := false

namespace Questions

def thing (q : Questions) (path : Octets) (follows : Bool) : Option (Inode × Node) :=
  match q.files.find q.here (pathOf path) follows with
  | .ok (.node inode node) => some (inode, node)
  | _ => none

def node (q : Questions) (path : Octets) : Option Node := (q.thing path true).map (·.2)
def link (q : Questions) (path : Octets) : Option Node := (q.thing path false).map (·.2)
def inode (q : Questions) (path : Octets) : Option Inode := (q.thing path true).map (·.1)

def isMarked (q : Questions) (path : Octets) (marks : Nat) : Bool :=
  (q.inode path).any fun inode => q.files.mode inode &&& marks != 0

def newer (q : Questions) (a b : Octets) : Bool :=
  match q.inode a, q.inode b with
  | some a, some b => q.files.time b < q.files.time a
  | some _, none => q.missingIsOld
  | none, _ => false

end Questions

def size : Node → Nat
  | .file content => content.length
  | .device _ | .pipe _ => 0
  | .directory | .link _ | .tool _ => 1

def asked (q : Questions) (letter : Char) (operand : Octets) : Bool :=
  match letter with
  | 'n' => operand != []
  | 'z' => operand = []
  | 'e' | 'r' | 'w' | 'O' | 'G' => (q.node operand).isSome
  | 'x' => q.node operand = some .directory || q.isMarked operand 0o111
  | 'u' => q.isMarked operand 0o4000
  | 'g' => q.isMarked operand 0o2000
  | 'k' => q.isMarked operand 0o1000
  | 'd' => q.node operand = some .directory
  | 'f' => match q.node operand with
    | some (.file _) | some (.tool _) => true
    | _ => false
  | 's' => (q.node operand).any (0 < size ·)
  | 'c' => match q.node operand with
    | some (.device _) => true
    | _ => false
  | 'p' => match q.node operand with
    | some (.pipe _) => true
    | _ => false
  | 'h' | 'L' => match q.link operand with
    | some (.link _) => true
    | _ => false
  | _ => false

def number (text : Octets) : Except Octets Int :=
  match text.dropWhile Octets.isSpace with
  | digits =>
    let digits := (digits.reverse.dropWhile Octets.isSpace).reverse
    match Octets.integer? digits with
    | some n => if Numeral.fits n then .ok n else .error (Octets.say "Illegal number: " ++ text)
    | none => .error (Octets.say "Illegal number: " ++ text)

def compared (q : Questions) (name : String) (a b : Octets) : Except Octets Bool := do
  match name with
  | "=" => return a = b
  | "!=" => return a != b
  | "<" => return (a < b : Bool)
  | ">" => return (b < a : Bool)
  | "-eq" => return (← number a) = (← number b)
  | "-ne" => return (← number a) != (← number b)
  | "-ge" => return (← number b) ≤ (← number a)
  | "-gt" => return (← number b) < (← number a)
  | "-le" => return (← number a) ≤ (← number b)
  | "-lt" => return (← number a) < (← number b)
  | "-nt" => return q.newer a b
  | "-ot" => return q.newer b a
  | "-ef" => return (q.inode a).isSome && q.inode a = q.inode b
  | _ => return false

def operatorAt (words : List Octets) : Option Operator :=
  match words with
  | [] => none
  | text :: rest =>
    match operator? text with
    | some (.unary c) =>
      -- Before nothing, and before an operator with two sides, it is an operand.
      match rest with
      | [] => none
      | [_] => some (.unary c)
      | next :: _ => if isBinary next then none else some (.unary c)
    | some .opening => if rest = [] then none else some .opening
    | other => other

abbrev Judged := Except Octets (Bool × List Octets)

mutual
def either (q : Questions) : (fuel : Nat) → (plain : Bool) → List Octets → Judged
  | 0, _, words => .ok (false, words)
  | fuel + 1, plain, words => do
    let (a, rest) ← both q fuel plain words
    if operatorAt rest = some .either then
      let (b, rest) ← either q fuel false rest.tail
      return (a || b, rest)
    return (a, rest)

def both (q : Questions) : (fuel : Nat) → (plain : Bool) → List Octets → Judged
  | 0, _, words => .ok (false, words)
  | fuel + 1, plain, words => do
    let (a, rest) ← negated q fuel plain words
    if operatorAt rest = some .both then
      let (b, rest) ← both q fuel false rest.tail
      return (a && b, rest)
    return (a, rest)

def negated (q : Questions) : (fuel : Nat) → (plain : Bool) → List Octets → Judged
  | 0, _, words => .ok (false, words)
  | fuel + 1, plain, words => do
    if !plain && operatorAt words = some .negation then
      if words.tail = [] then return (true, [])
      let (a, rest) ← negated q fuel false words.tail
      return (!a, rest)
    else primary q fuel plain words

def primary (q : Questions) : (fuel : Nat) → (plain : Bool) → List Octets → Judged
  | 0, _, words => .ok (false, words)
  | fuel + 1, plain, words => do
    match words with
    | [] => return (false, [])
    | first :: rest =>
      let found := if plain then none else operatorAt words
      match found with
      | some .opening =>
        if operatorAt rest = some .closing then return (false, rest)
        let (a, rest) ← either q fuel false rest
        if operatorAt rest = some .closing then return (a, rest.tail)
        else throw (Octets.say "closing paren expected")
      | some (.unary letter) =>
        match rest with
        | [] => throw (first ++ Octets.say ": argument expected")
        | operand :: rest =>
          if letter = 't' then
            let _ ← number operand
            return (false, rest)
          return (asked q letter operand, rest)
      | _ =>
        match rest with
        | op :: more =>
          match operatorAt rest with
          | some (.binary name) =>
            match more with
            | [] => throw (op ++ Octets.say ": argument expected")
            | operand :: more => return (← compared q name first operand, more)
          | _ => return (first != [], rest)
        | [] => return (first != [], [])
end

def holds (q : Questions) (words : List Octets) : Except Octets Bool := do
  let whole (negate plain : Bool) (words : List Octets) : Except Octets Bool := do
    let (a, rest) ← either q (4 * words.length + 8) plain words
    if rest = [] then return a != negate
    let last := (words.take (words.length - rest.length)).getLast?.getD []
    throw (last ++ Octets.say ": unexpected operator")
  match words with
  | [] => return false
  | [a, op, b] =>
    if isBinary op then whole false true words
    else if a = ['('] && b = [')'] then whole false false [op]
    else whole false false words
  | [a, b, c, d] =>
    if a = ['!'] then
      if isBinary c then whole true true [b, c, d] else whole true false [b, c, d]
    else if a = ['('] && d = [')'] then whole false false [b, c]
    else whole false false words
  | words => whole false false words

end SvelteTransform.Sandbox.Tools.Condition
