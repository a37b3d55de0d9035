import SvelteTransform.Sandbox.Awk.Syntax
import SvelteTransform.Sandbox.Tools.Printf

/-! The tokens of a program. What came before decides whether a slash divides or begins an
expression that is looked for, and whether a sign compares or directs output. -/
namespace SvelteTransform.Sandbox.Awk

inductive Token where
  | number (x : Float)
  | text (t : Octets)
  | regex (t : Octets)
  | name (n : Octets)
  | called (n : Octets)
  | builtin (function : Builtin)
  | keyword (word : String)
  | sign (sign : String)
  | goal (sign : String)
  | stop
  | finish
  | broken (message : Octets)

structure Lexeme where
  token : Token
  line : Nat
  shown : Octets
  parentheses : Nat := 0
  braces : Nat := 0

namespace Token

def keywords : List String :=
  ["print", "printf", "if", "else", "while", "for", "do", "in", "next", "nextfile", "exit",
   "return", "break", "continue", "delete", "function", "getline", "BEGIN", "END"]

def builtins : List (String × Builtin) :=
  [("length", .length), ("substr", .substr), ("index", .index), ("split", .split), ("sub", .sub),
   ("gsub", .gsub), ("match", .match_), ("sprintf", .sprintf), ("sin", .sin), ("cos", .cos),
   ("atan2", .atan2), ("exp", .exp), ("log", .log), ("sqrt", .sqrt), ("int", .int),
   ("rand", .rand), ("srand", .srand), ("tolower", .toLower), ("toupper", .toUpper),
   ("system", .system), ("close", .close), ("fflush", .flush)]

def signs : List String :=
  ["&&", "||", "++", "--", "+=", "-=", "*=", "/=", "%=", "^=", "==", "<=", ">=", "!=", "!~",
   "\x7b", "\x7d", "(", ")", "[", "]", ";", ",", "+", "-", "*", "/", "%", "^", "!", ">", "<", "|",
   "?", ":", "~", "$", "="]

def endsOperand : Token → Bool
  | .number _ | .text _ | .regex _ | .name _ => true
  | .keyword word => word = "getline"
  | .sign mark => mark = ")" || mark = "]"
  | _ => false

end Token

namespace Lexeme

def unescaped : (fuel : Nat) → Octets → Octets
  | fuel + 1, '\\' :: rest =>
    match rest with
    | '"' :: rest => '"' :: unescaped fuel rest
    | '\n' :: rest => unescaped fuel rest
    | 'x' :: d :: rest =>
      let digits := ((d :: rest).take 2).takeWhile (Numeral.isDigitOf 16)
      if digits = [] then '\\' :: 'x' :: unescaped fuel (d :: rest)
      else Octets.byte (Numeral.valueOf 16 digits) ::
        unescaped fuel ((d :: rest).drop digits.length)
    | 'e' :: rest => '\\' :: 'e' :: unescaped fuel rest
    | rest =>
      let (octets, rest) := Tools.Printf.escape rest
      octets ++ unescaped fuel rest
  | fuel + 1, c :: rest => c :: unescaped fuel rest
  | _, _ => []

def unescape (text : Octets) : Octets := unescaped (text.length + 1) text

def quoted : Octets → Option (Octets × Octets)
  | [] | '\n' :: _ => none
  | '"' :: rest => some ([], rest)
  | '\\' :: c :: rest => (quoted rest).map fun (text, rest) => ('\\' :: c :: text, rest)
  | c :: rest => (quoted rest).map fun (text, rest) => (c :: text, rest)

def sought (inSet : Bool) : Octets → Option (Octets × Octets)
  | [] | '\n' :: _ => none
  | '\\' :: '/' :: rest => (sought inSet rest).map fun (text, rest) => ('/' :: text, rest)
  | '\\' :: c :: rest => (sought inSet rest).map fun (text, rest) => ('\\' :: c :: text, rest)
  | '/' :: rest =>
    if inSet then (sought inSet rest).map fun (text, rest) => ('/' :: text, rest)
    else some ([], rest)
  | '[' :: rest =>
    let opening := match rest with
      | '^' :: ']' :: _ => 2
      | '^' :: _ | ']' :: _ => 1
      | _ => 0
    if inSet || opening = 0 then
      (sought true rest).map fun (text, rest) => ('[' :: text, rest)
    else match rest with
      | a :: ']' :: rest =>
        if opening = 2 then
          (sought true rest).map fun (text, rest) => ('[' :: a :: ']' :: text, rest)
        else (sought true (']' :: rest)).map fun (text, rest) => ('[' :: a :: text, rest)
      | a :: rest => (sought true rest).map fun (text, rest) => ('[' :: a :: text, rest)
      | [] => none
  | ']' :: rest => (sought false rest).map fun (text, rest) => (']' :: text, rest)
  | c :: rest => (sought inSet rest).map fun (text, rest) => (c :: text, rest)

def skip (lines : Bool) : (fuel : Nat) → Nat → Octets → Nat × Octets
  | fuel + 1, line, '\\' :: '\n' :: rest => skip lines fuel (line + 1) rest
  | fuel + 1, line, '#' :: rest => skip lines fuel line (rest.dropWhile (· != '\n'))
  | fuel + 1, line, c :: rest =>
    if c = '\n' then if lines then skip lines fuel (line + 1) rest else (line, c :: rest)
    else if Octets.isSpace c then skip lines fuel line rest
    else (line, c :: rest)
  | _, line, rest => (line, rest)

structure Scan where
  rest : Octets
  line : Nat := 1
  before : Token := .stop
  parentheses : Nat := 0
  braces : Nat := 0
  prints : Bool := false
  found : List Lexeme := []

namespace Scan

def skip (s : Scan) (lines : Bool) : Scan :=
  let (line, rest) := Lexeme.skip lines (s.rest.length + 1) s.line s.rest
  { s with line, rest }

def put (s : Scan) (token : Token) (shown rest : Octets) : Scan :=
  { s with
    found := ⟨token, s.line, shown, s.parentheses, s.braces⟩ :: s.found
    before := token
    rest }

def break_ (s : Scan) (message : Octets) : Scan :=
  s.put (.broken message) [] []

def inLine (s : Scan) (text : Octets) : Octets := Octets.say s!"line {s.line}: " ++ text

def name (s : Scan) (text rest : Octets) : Scan :=
  let word := String.ofList text
  match Token.builtins.lookup word with
  | some function => s.put (.builtin function) text rest
  | none =>
    if Token.keywords.contains word then
      let s := s.put (.keyword word) text rest
      if word = "print" || word = "printf" then { s with prints := true }
      else if word = "do" || word = "else" then s.skip true
      else s
    else if rest.head? = some '(' then s.put (.called text) text rest
    else s.put (.name text) text rest

def number (s : Scan) : Scan :=
  match Tools.Printf.decimal s.rest with
  | none => s.put (.sign ".") ['.'] s.rest.tail
  | some (n, power, rest) =>
    let x := Float.ofScientific n (power < 0) power.natAbs
    let shown := s.rest.take (s.rest.length - rest.length)
    let isTiny := n != 0 && x.toBits.toNat < Nat.pow 2 52
    if x.isInf || isTiny then s.break_ (s.inLine (shown ++ Octets.say " : decimal overflow"))
    else s.put (.number x) shown rest

def endsStatement : Token → Bool
  | .stop => true
  | .sign mark => mark = "\x7d"
  | _ => false

def close (s : Scan) (rest : Octets) : Scan :=
  if s.braces = 0 then s.put (.broken (s.inLine "extra '\x7d'".toList)) ['\x7d'] rest
  else
    let s : Scan := if endsStatement s.before then s else s.put .stop ['\x7d'] s.rest
    let s : Scan := { s.put (.sign "\x7d") ['\x7d'] rest with braces := s.braces - 1, prints := false }
    let s : Scan := if s.braces = 0 then
        let t : Scan := s.skip false
        if t.rest.head? = some ';' then { t with rest := t.rest.tail } else t
      else s
    s.skip true

def sign (s : Scan) (sign : String) (rest : Octets) : Scan :=
  let plain := s.put (.sign sign) sign.toList rest
  match sign with
  | "\x7b" => { plain with braces := s.braces + 1 }.skip true
  | "\x7d" => s.close rest
  | "(" => { plain with parentheses := s.parentheses + 1 }
  | ")" =>
    if s.parentheses = 0 then s.break_ (s.inLine "extra ')'".toList)
    else { plain with parentheses := s.parentheses - 1 }
  | ";" => { s.put .stop [';'] rest with prints := false }.skip true
  | "," | "&&" | "||" => plain.skip true
  | _ => plain

def next (s : Scan) : Scan :=
  let s := s.skip false
  let directs := s.prints && s.parentheses = 0
  match s.rest with
  | [] => s
  | '\n' :: rest =>
    let s := { s.put .stop (Octets.say "end of line") rest with prints := false }
    { s with line := s.line + 1 }.skip true
  | '"' :: rest =>
    match quoted rest with
    | some (text, after) =>
      let s := s.put (.text (unescape text)) (unescape text) after
      { s with line := s.line + text.count '\n' }
    | none =>
      s.break_ (s.inLine (Octets.say "runaway string constant \"" ++
        (rest.takeWhile (· != '\n')).take 10 ++ Octets.say " ..."))
  | '/' :: rest =>
    if s.before.endsOperand then
      if rest.head? = some '=' then s.sign "/=" rest.tail else s.sign "/" rest
    else match sought false rest with
      | some (text, after) => s.put (.regex text) ('/' :: text ++ ['/']) after
      | none =>
        s.break_ (s.inLine (Octets.say "runaway regular expression /" ++
          (rest.takeWhile (· != '\n')).take 10 ++ Octets.say " ..."))
  | '>' :: '>' :: rest =>
    if directs then { s.put (.goal ">>") ['>', '>'] rest with prints := false }
    else s.sign ">" ('>' :: rest)
  | c :: rest =>
    if directs && c = '>' then { s.put (.goal ">") ['>'] rest with prints := false }
    else if directs && c = '|' && rest.head? != some '|' then
      { s.put (.goal "|") ['|'] rest with prints := false }
    else if Octets.isNameStart c then
      let text := (c :: rest).takeWhile Octets.isNamePart
      s.name text ((c :: rest).drop text.length)
    else if Octets.isDigit c || (c = '.' && rest.head?.any Octets.isDigit) then s.number
    else match Token.signs.find? fun sign => sign.toList.isPrefixOf (c :: rest) with
      | some sign => s.sign sign ((c :: rest).drop sign.length)
      | none =>
        s.break_ (Octets.say s!"{s.line}: unexpected character '" ++ [c, '\''])

def all : (fuel : Nat) → Scan → Scan
  | 0, s => s
  | fuel + 1, s => if s.rest = [] then s else all fuel s.next

end Scan

def ofText (text : Octets) : List Lexeme :=
  let s := Scan.skip { rest := text ++ ['\n'] } true
  let s := Scan.all (text.length + 2) s
  let s := match s.before with
    | .stop | .broken _ => s
    | _ => if Scan.endsStatement s.before then s else s.put .stop (Octets.say "end of line") []
  (s.put .finish (Octets.say "end of file") []).found.reverse

end Lexeme
end SvelteTransform.Sandbox.Awk
