import SvelteTransform.Sandbox.Files
import SvelteTransform.Sandbox.Numeral
import SvelteTransform.Sandbox.Octets

/-! Permissions as programs are told of them: in digits, or by what is to be added to those that a
file has, taken from them, or put in their place. -/
namespace SvelteTransform.Sandbox.Permissions

inductive Given where
  | bits (bits : Nat) (ifRun : Bool)
  | asFor (user : Char)
  deriving DecidableEq, Repr

structure Change where
  users : Nat
  sign : Char
  given : Given
  deriving DecidableEq, Repr

inductive Asked where
  | exactly (bits : Nat) (wholly : Bool)
  | changes (all : List Change)
  deriving DecidableEq, Repr

def userBits : Char → Nat
  | 'u' => 0o4700
  | 'g' => 0o2070
  | 'o' => 0o1007
  | _ => 0o7777

def letterBits : Char → Nat
  | 'r' => 0o444
  | 'w' => 0o222
  | 'x' => 0o111
  | 's' => 0o6000
  | 't' => 0o1000
  | _ => 0

def union (bits : List Nat) : Nat := bits.foldl (· ||| ·) 0

def without (a b : Nat) : Nat := a - (a &&& b)

def isOctal (c : Char) : Bool := '0' ≤ c && c ≤ '7'

def clause (users : Nat) : (fuel : Nat) → Octets → Option (List Change)
  | fuel + 1, sign :: rest => do
    guard ("+-=".toList.contains sign)
    let letters := rest.takeWhile ("rwxXst".toList.contains ·)
    let (given, rest) : Given × Octets := match rest with
      | c :: more =>
        if "ugo".toList.contains c then (.asFor c, more)
        else (.bits (union (letters.map letterBits)) (letters.contains 'X'), rest.drop letters.length)
      | [] => (.bits 0 false, [])
    let change : Change := ⟨users, sign, given⟩
    if rest = [] then some [change] else return change :: (← clause users fuel rest)
  | _, _ => none

def ofText? (text : Octets) : Option Asked := do
  if text != [] && text.all isOctal then
    let bits := Numeral.valueOf 8 text
    if 0o7777 < bits then none else some (.exactly bits (4 < text.length))
  else match text with
    | [] => none
    | sign :: digits =>
      if "+-=".toList.contains sign && digits != [] && digits.all isOctal then
        let bits := Numeral.valueOf 8 digits
        if 0o7777 < bits then none
        else some (.changes [⟨0o7777, sign, .bits bits false⟩])
      else
        let parts ← (Path.cutAt ',' text).mapM fun part =>
          let users := part.takeWhile ("ugoa".toList.contains ·)
          let rest := part.drop users.length
          clause (union (users.map userBits)) rest.length rest
        return .changes parts.flatten

def spread (user : Char) (mode : Nat) : Nat :=
  let three := match user with
    | 'u' => mode / 64 % 8
    | 'g' => mode / 8 % 8
    | _ => mode % 8
  three * 0o111

def Change.apply (c : Change) (mask : Nat) (isDirectory : Bool) (mode : Nat) : Nat :=
  let bits := match c.given with
    | .bits bits ifRun =>
      if ifRun && (isDirectory || mode &&& 0o111 != 0) then bits ||| 0o111 else bits
    | .asFor user => spread user mode
  let bits := if c.users = 0 then without bits mask else bits &&& c.users
  match c.sign with
  | '+' => mode ||| bits
  | '-' => without mode bits
  | _ => (if c.users = 0 then 0 else without mode c.users) ||| bits

def Asked.apply (a : Asked) (mask : Nat) (isDirectory : Bool) (mode : Nat) : Nat :=
  match a with
  | .exactly bits wholly => if isDirectory && !wholly then bits ||| (mode &&& 0o6000) else bits
  | .changes all => all.foldl (fun mode c => c.apply mask isDirectory mode) mode

def digits (mode : Nat) : Octets :=
  let digits := Nat.toDigits 8 mode
  List.replicate (4 - digits.length) '0' ++ digits

def three (bits : Nat) (special : Bool) (mark : Char) : Octets :=
  [if bits &&& 4 = 0 then '-' else 'r', if bits &&& 2 = 0 then '-' else 'w',
    match bits &&& 1 == 0, special with
    | true, true => mark.toUpper
    | true, false => '-'
    | false, true => mark
    | false, false => 'x']

def letters (mode : Nat) : Octets :=
  three (mode / 64 % 8) (mode &&& 0o4000 != 0) 's' ++
    three (mode / 8 % 8) (mode &&& 0o2000 != 0) 's' ++ three (mode % 8) (mode &&& 0o1000 != 0) 't'

def kindLetter : Node → Char
  | .directory => 'd'
  | .link _ => 'l'
  | .file _ | .tool _ => '-'
  | .device _ => 'c'
  | .pipe _ => 'p'

end SvelteTransform.Sandbox.Permissions
