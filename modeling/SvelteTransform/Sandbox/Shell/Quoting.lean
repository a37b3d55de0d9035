import SvelteTransform.Sandbox.Octets

/-! Texts written so that a shell of the larger dialect reads them as they are. -/
namespace SvelteTransform.Sandbox.Shell.Quoting

def isPrintable (c : Char) : Bool := ' ' ≤ c && c ≤ '~'

def octal (c : Char) : Octets :=
  let digits := Nat.toDigits 8 c.toNat
  List.replicate (3 - digits.length) '0' ++ digits

def escape (c : Char) : Octets :=
  match c with
  | '\x1b' => ['\\', 'E']
  | '\x07' => ['\\', 'a']
  | '\x0b' => ['\\', 'v']
  | '\x08' => ['\\', 'b']
  | '\x0c' => ['\\', 'f']
  | '\n' => ['\\', 'n']
  | '\r' => ['\\', 'r']
  | '\t' => ['\\', 't']
  | '\\' => ['\\', '\\']
  | '\'' => ['\\', '\'']
  | c => if isPrintable c then [c] else '\\' :: octal c

def escaped (text : Octets) : Octets := '$' :: '\'' :: text.flatMap escape ++ ['\'']

def single (text : Octets) : Octets :=
  '\'' :: (text.flatMap fun c => if c = '\'' then "'\\''".toList else [c]) ++ ['\'']

def double (text : Octets) : Octets :=
  '"' :: (text.flatMap fun c => if "\"$\x60\\".toList.contains c then ['\\', c] else [c]) ++ ['"']

def isAllPrintable (text : Octets) : Bool := text.all isPrintable

def reusable (text : Octets) : Octets :=
  if isAllPrintable text then single text else escaped text

def value (text : Octets) : Octets :=
  if isAllPrintable text then double text else escaped text

def isMeant (before : Option Char) (c : Char) : Bool :=
  " \t\n'\"\\|&;()<>!\x7b\x7d*[?]^$\x60".toList.contains c ||
    (c = '~' && before.all fun b => b = '=' || b = ':') || (c = '#' && before.isNone)

def hasMeaning (text : Octets) : Bool :=
  (text.zip (none :: text.map some)).any fun (c, before) => isMeant before c

def traced (text : Octets) : Octets :=
  if text = [] then ['\'', '\'']
  else if hasMeaning text then single text
  else if isAllPrintable text then text
  else escaped text

def plainest (text : Octets) : Octets :=
  if !isAllPrintable text then escaped text
  else if hasMeaning text then single text
  else text

def backslashed (text : Octets) : Octets :=
  if text = [] then ['\'', '\'']
  else if !isAllPrintable text then escaped text
  else (text.zip (none :: text.map some)).flatMap fun (c, before) =>
    if isMeant before c || c = ',' then ['\\', c] else [c]

def key (text : Octets) : Octets :=
  if !isAllPrintable text then escaped text
  else if hasMeaning text then double text
  else text

end SvelteTransform.Sandbox.Shell.Quoting
