import SvelteTransform.Sandbox.Regex

/-! How the expressions that are looked for are written. Everything that is special is so
everywhere, and nothing may be repeated or chosen that is not there. -/
namespace SvelteTransform.Sandbox.Awk.Search

inductive Flaw where
  | missingOperand
  | missingParenthesis
  | badClass
  deriving DecidableEq, Repr

def Flaw.text : Flaw → String
  | .missingOperand => "missing operand"
  | .missingParenthesis => "missing ')'"
  | .badClass => "bad class -- [], [^] or ["

def isOctal (c : Char) : Bool := '0' ≤ c && c ≤ '7'

def escaped (rest : Octets) : Char × Octets :=
  match rest with
  | [] => ('\\', [])
  | 'n' :: rest => ('\n', rest)
  | 't' :: rest => ('\t', rest)
  | 'r' :: rest => ('\r', rest)
  | 'f' :: rest => ('\x0c', rest)
  | 'v' :: rest => ('\x0b', rest)
  | 'a' :: rest => ('\x07', rest)
  | 'b' :: rest => ('\x08', rest)
  | c :: rest =>
    let digits := ((c :: rest).take 3).takeWhile isOctal
    if digits = [] then (c, rest)
    else (Octets.byte (digits.foldl (fun n d => n * 8 + (d.toNat - '0'.toNat)) 0),
      (c :: rest).drop digits.length)

def member : Octets → Option (Char × Octets)
  | [] => none
  | '\\' :: rest => some (escaped rest)
  | c :: rest => some (c, rest)

def members : (fuel : Nat) → (first : Bool) → List (Char × Char) → Octets →
    Except Flaw (List (Char × Char) × Octets)
  | 0, _, _, _ | _, _, _, [] => .error .badClass
  | _, false, ranges, ']' :: rest => .ok (ranges, rest)
  | fuel + 1, _, ranges, '[' :: ':' :: rest =>
    let name := rest.takeWhile Octets.isLower
    match rest.drop name.length with
    | ':' :: ']' :: rest =>
      match CharacterSet.named? name with
      | some named => members fuel false (named ++ ranges) rest
      | none => .error .badClass
    | _ => members fuel false (('[', '[') :: ranges) (':' :: rest)
  | fuel + 1, _, ranges, text =>
    match member text with
    | none => .error .badClass
    | some (low, rest) =>
      match rest with
      | '-' :: ']' :: _ => members fuel false ((low, low) :: ranges) rest
      | '-' :: after =>
        match member after with
        | some (high, rest) => members fuel false ((low, high) :: ranges) rest
        | none => .error .badClass
      | rest => members fuel false ((low, low) :: ranges) rest

def characterSet (rest : Octets) : Except Flaw (CharacterSet × Octets) := do
  let (negated, rest) := match rest with
    | '^' :: rest => (true, rest)
    | rest => (false, rest)
  let (ranges, rest) ← members (rest.length + 1) true [] rest
  return (⟨negated, ranges⟩, rest)

def repeated : (fuel : Nat) → Regex → Octets → Regex × Octets
  | 0, r, rest => (r, rest)
  | fuel + 1, r, rest =>
    match rest with
    | '*' :: rest => repeated fuel (.many r 0 none) rest
    | '+' :: rest => repeated fuel (.many r 1 none) rest
    | '?' :: rest => repeated fuel (.many r 0 (some 1)) rest
    | '\x7b' :: inside =>
      match Regex.bounds true inside with
      | some (least, most, rest) => repeated fuel (.many r least most) rest
      | none => (r, rest)
    | rest => (r, rest)

mutual
def alternatives : (fuel : Nat) → (depth : Nat) → Octets → Except Flaw (Regex × Octets)
  | 0, _, _ => .error .missingOperand
  | fuel + 1, depth, text => do
    let (first, rest) ← sequence fuel depth none text
    match rest with
    | '|' :: rest =>
      let (second, rest) ← alternatives fuel depth rest
      return (.either first second, rest)
    | rest => return (first, rest)

def sequence : (fuel : Nat) → (depth : Nat) → Option Regex → Octets → Except Flaw (Regex × Octets)
  | 0, _, _, _ => .error .missingOperand
  | fuel + 1, depth, before, text =>
    let close : Except Flaw (Regex × Octets) := match before with
      | some r => .ok (r, text)
      | none => .error (if text = [] && depth != 0 then .missingParenthesis else .missingOperand)
    let goOn (r : Regex) (rest : Octets) : Except Flaw (Regex × Octets) :=
      let (r, rest) := repeated (rest.length + 1) r rest
      sequence fuel depth (some (match before with
        | some before => .both before r
        | none => r)) rest
    match text with
    | [] | '|' :: _ => close
    | ')' :: rest => if depth = 0 then goOn (Regex.exactly ')') rest else close
    | '*' :: _ | '+' :: _ | '?' :: _ => .error .missingOperand
    | '(' :: rest => do
      let (inside, rest) ← alternatives fuel (depth + 1) rest
      match rest with
      | ')' :: rest => goOn inside rest
      | _ => .error .missingParenthesis
    | '^' :: rest => goOn .atStart rest
    | '$' :: rest => goOn .atEnd rest
    | '.' :: rest => goOn Regex.anyCharacter rest
    | '[' :: rest => do
      let (set, rest) ← characterSet rest
      goOn (.one set) rest
    | '\\' :: rest =>
      let (c, rest) := escaped rest
      goOn (Regex.exactly c) rest
    | c :: rest => goOn (Regex.exactly c) rest
end

def read (text : Octets) : Except Flaw Regex :=
  if text = [] then .ok .empty
  else (alternatives (2 * text.length + 4) 0 text).map (·.1)

end SvelteTransform.Sandbox.Awk.Search
