import SvelteTransform.Json.Basic
import SvelteTransform.Text.Quoted

/-! Compact JSON text. Only quotation marks, backslashes and control characters are escaped, so
a text never spans lines. -/
namespace SvelteTransform.Json

def hexPair (n : Nat) : List Char := [Nat.digitChar (n / 16), Nat.digitChar (n % 16)]

def escape (c : Char) : List Char :=
  match c with
  | '"' => ['\\', '"']
  | '\\' => ['\\', '\\']
  | '\x08' => ['\\', 'b']
  | '\t' => ['\\', 't']
  | '\n' => ['\\', 'n']
  | '\x0c' => ['\\', 'f']
  | '\r' => ['\\', 'r']
  | c => if c.toNat < 0x20 then ['\\', 'u', '0', '0'] ++ hexPair c.toNat else [c]

def stringText (s : String) : List Char := '"' :: s.toList.flatMap escape ++ ['"']

def numberText : Number → List Char
  | .natural n _ => Nat.toDigits 10 n
  | .negative n _ => '-' :: Nat.toDigits 10 n
  | .real x _ => Decimal.floatText x

mutual
def text : Json → List Char
  | .null => ['n', 'u', 'l', 'l']
  | .boolean true => ['t', 'r', 'u', 'e']
  | .boolean false => ['f', 'a', 'l', 's', 'e']
  | .number n => numberText n
  | .string s => stringText s
  | .array [] => ['[', ']']
  | .array (v :: rest) => '[' :: (text v ++ itemsText rest)
  | .object [] => ['\x7b', '\x7d']
  | .object ((k, v) :: rest) => '\x7b' :: (stringText k ++ ':' :: (text v ++ membersText rest))
def itemsText : List Json → List Char
  | [] => [']']
  | v :: rest => ',' :: (text v ++ itemsText rest)
def membersText : List (String × Json) → List Char
  | [] => ['\x7d']
  | (k, v) :: rest => ',' :: (stringText k ++ ':' :: (text v ++ membersText rest))
end

def toText (v : Json) : String := String.ofList (text v)

def described : Json → String
  | .null => "null"
  | .boolean b => s!"boolean `{b}`"
  | .number n =>
    let shown := String.ofList (numberText n)
    match n with
    | .real .. => s!"floating point `{shown}`"
    | _ => s!"integer `{shown}`"
  | .string s => "string " ++ Text.quoted s
  | .array _ => "sequence"
  | .object _ => "map"

end SvelteTransform.Json
