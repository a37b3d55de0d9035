import SvelteTransform.Sandbox.Tools.Listing

/-! Bytes written with few characters. The bits of the bytes, taken in a row, are cut into digits of
equal size; as many digits as make whole bytes are a group, and a last group that is not full is
filled with equals signs. -/
namespace SvelteTransform.Sandbox.Tools.Encodings

structure Alphabet where
  digits : List Char
  bits : Nat
  group : Nat × Nat
  filled : Bool := true
  lowFirst : Bool := false

def letters : String := "ABCDEFGHIJKLMNOPQRSTUVWXYZ"
def base64 : Alphabet :=
  ⟨(letters ++ "abcdefghijklmnopqrstuvwxyz0123456789+/").toList, 6, (4, 3), true, false⟩
def base64Url : Alphabet :=
  { base64 with digits := (letters ++ "abcdefghijklmnopqrstuvwxyz0123456789-_").toList }
def base32 : Alphabet := ⟨(letters ++ "234567").toList, 5, (8, 5), true, false⟩
def base32Hex : Alphabet := { base32 with digits := "0123456789ABCDEFGHIJKLMNOPQRSTUV".toList }
def base16 : Alphabet := ⟨"0123456789ABCDEF".toList, 4, (2, 1), false, false⟩
def base2 (lowFirst : Bool) : Alphabet := ⟨['0', '1'], 1, (8, 1), false, lowFirst⟩

namespace Alphabet

def bitsOf (count n : Nat) : List Bool := (List.range count).reverse.map n.testBit

def numberOf (bits : List Bool) : Nat := bits.foldl (fun n bit => 2 * n + bit.toNat) 0

def rows (size : Nat) : (fuel : Nat) → List Bool → List (List Bool)
  | 0, _ | _, [] => []
  | fuel + 1, bits =>
    let row := bits.take size
    (row ++ List.replicate (size - row.length) false) :: rows size fuel (bits.drop size)

def ofByte (a : Alphabet) (c : Char) : List Bool :=
  let bits := bitsOf 8 c.toNat
  if a.lowFirst then bits.reverse else bits

def toByte (a : Alphabet) (bits : List Bool) : Char :=
  Octets.byte (numberOf (if a.lowFirst then bits.reverse else bits))

def encoded (a : Alphabet) (text : Octets) : Octets :=
  let bits := text.flatMap a.ofByte
  let digits := (rows a.bits bits.length bits).map fun row => a.digits.getD (numberOf row) 'A'
  let missing := (a.group.1 - digits.length % a.group.1) % a.group.1
  digits ++ List.replicate (if a.filled then missing else 0) '='

def groupDecoded (a : Alphabet) (group : Octets) : Octets × Bool :=
  let rec go : (fuel : Nat) → (byte used : Nat) → List Bool → Octets → Octets × Bool
    | 0, _, _, _, _ => ([], true)
    | fuel + 1, byte, used, before, rest =>
      if byte = a.group.2 then ([], true)
      else if 0 < byte && a.filled && rest.head? = some '=' then
        ([], rest = List.replicate (a.group.1 - used) '=')
      else
        let wanted := (8 - before.length + a.bits - 1) / a.bits
        match (rest.take wanted).mapM a.digits.idxOf? with
        | some values =>
          let bits := before ++ values.flatMap (bitsOf a.bits)
          if bits.length < 8 then ([], false)
          else
            let (more, valid) := go fuel (byte + 1) (used + wanted) (bits.drop 8) (rest.drop wanted)
            (a.toByte (bits.take 8) :: more, valid)
        | none => ([], false)
  if a.group.1 = 8 && group.length < 8 then ([], false) else go (a.group.2 + 1) 0 0 [] group

def decoded (a : Alphabet) : (fuel : Nat) → Octets → Octets × Bool
  | 0, _ | _, [] => ([], true)
  | fuel + 1, text =>
    let (bytes, valid) := a.groupDecoded (text.take a.group.1)
    if valid then
      let (more, valid) := a.decoded fuel (text.drop a.group.1)
      (bytes ++ more, valid)
    else (bytes, false)

end Alphabet

def options : Options := {
  flags := "di", valued := "w"
  long := [("decode", 'd'), ("wrap", 'w'), ("ignore-garbage", 'i')] }

def written (c : Call) (given : Given) (a : Alphabet) : Running Unit := do
  let width := (given.value? 'w').getD (Octets.say "76")
  if !Octets.isNumber width then complain c (Octets.say "invalid wrap size: " ++ quoted width)
  else
    match given.operands with
    | _ :: extra :: _ => tryHelp c (Octets.say "extra operand " ++ quoted extra)
    | operands =>
      let file := operands.headD ['-']
      match ← readNamed c Files.endless file with
      | .error error => complainOf c file error
      | .ok text =>
        if given.has 'd' then
          let text := text.filter (· != '\n')
          let text := if given.has 'i' then
              text.filter fun c => a.digits.contains c || (a.filled && c = '=')
            else text
          let (bytes, valid) := a.decoded text.length text
          print bytes
          unless valid do complain c (Octets.say "invalid input")
        else
          let digits := a.encoded text
          let width := Octets.natural width
          print (if width = 0 then digits else (rows width digits.length digits).flatten)
where
  rows (width : Nat) : (fuel : Nat) → Octets → List Octets
    | 0, _ | _, [] => []
    | fuel + 1, digits => (digits.take width ++ ['\n']) :: rows width fuel (digits.drop width)

def inAlphabet (a : Alphabet) (c : Call) : Running Unit :=
  withOptions c options (written c · a)

def alphabets : List (String × Char × Alphabet) :=
  [("base64", '6', base64), ("base64url", 'u', base64Url), ("base32", '3', base32),
   ("base32hex", 'x', base32Hex), ("base16", '1', base16), ("base2msbf", 'm', base2 false),
   ("base2lsbf", 'l', base2 true)]

def anyAlphabet (c : Call) : Running Unit :=
  let options := { options with
    long := options.long ++ alphabets.map fun (name, letter, _) => (name, letter) }
  withOptions c options fun given =>
    match given.options.reverse.findSome? fun (letter, _) =>
      (alphabets.find? (·.2.1 = letter)).map (·.2.2) with
    | some a => written c given a
    | none => tryHelp c (Octets.say "missing encoding type")

end SvelteTransform.Sandbox.Tools.Encodings
