import SvelteTransform.Path
import SvelteTransform.Sandbox.Numeral
import SvelteTransform.Sandbox.Octets

/-! Masks of permissions: which ones new files do not get. A mask is given as a number, or by what
is to be added to the permissions that files get, taken from them, or put in their place. -/
namespace SvelteTransform.Sandbox.Mask

def standard : Nat := 0o022

def forAll (bits : Nat) : Nat := bits * 0o111

def usersOf (letters : Octets) : Nat :=
  if letters = [] || letters.contains 'a' then 0o777
  else (if letters.contains 'u' then 0o700 else 0) + (if letters.contains 'g' then 0o070 else 0) +
    (if letters.contains 'o' then 0o007 else 0)

def bitsOf (given : Nat) : Char → Nat
  | 'r' => 4
  | 'w' => 2
  | 'x' => 1
  | 'X' => if given &&& 0o111 = 0 then 0 else 1
  | 'u' => given / 64 % 8
  | 'g' => given / 8 % 8
  | 'o' => given % 8
  | _ => 0

def changed (given users : Nat) (sign : Char) (letters : Octets) : Nat :=
  let bits := users &&& forAll (letters.foldl (· ||| bitsOf given ·) 0)
  match sign with
  | '+' => given ||| bits
  | '-' => given &&& (0o777 - bits)
  | _ => (given &&& (0o777 - users)) ||| bits

def clause (users : Nat) : (fuel given : Nat) → Octets → Option Nat
  | _, given, [] => some given
  | fuel + 1, given, sign :: rest =>
    let letters := rest.takeWhile ("rwxXsugo".toList.contains ·)
    if "+-=".toList.contains sign then
      clause users fuel (changed given users sign letters) (rest.drop letters.length)
    else none
  | 0, _, _ => none

def permissions? (given : Nat) (text : Octets) : Option Nat :=
  let text := if text.getLast? = some ',' && 1 < text.length then text.dropLast else text
  if text = [] then some given
  else (Path.cutAt ',' text).foldlM (fun given part =>
    let users := part.takeWhile ("ugoa".toList.contains ·)
    let rest := part.drop users.length
    if rest = [] then none else clause (usersOf users) rest.length given rest) given

inductive Wrong where
  | number
  | mode
  deriving DecidableEq, Repr

def ofText (mask : Nat) (text : Octets) : Except Wrong Nat :=
  if text.head?.any Octets.isDigit then
    if text.all fun c => '0' ≤ c && c ≤ '7' then .ok (Numeral.valueOf 8 text % 0o1000)
    else .error .number
  else match permissions? (0o777 - mask) text with
    | some given => .ok (0o777 - given)
    | none => .error .mode

def text (mask : Nat) : Octets :=
  let digits := Nat.toDigits 8 mask
  List.replicate (4 - digits.length) '0' ++ digits

def lettered (mask : Nat) : Octets :=
  let given := 0o777 - mask
  let part (user : Char) (bits : Nat) : Octets :=
    user :: '=' :: ((if bits &&& 4 = 0 then [] else ['r']) ++ (if bits &&& 2 = 0 then [] else ['w']) ++
      (if bits &&& 1 = 0 then [] else ['x']))
  part 'u' (given / 64) ++ ',' :: part 'g' (given / 8 % 8) ++ ',' :: part 'o' (given % 8)

end SvelteTransform.Sandbox.Mask
