import SvelteTransform.Sandbox.Tools.Text

/-! Programs that copy and compare bytes as such. -/
namespace SvelteTransform.Sandbox.Tools

namespace Copying

def product? (text : Octets) : Option (Nat × Bool) := do
  let single := text.getLast? = some 'B' && (text.dropLast.getLast?.any Octets.isDigit)
  let text := if single then text.dropLast else text
  let n ← (Path.cutAt 'x' text).foldlM (fun n part => (factor? part).map (n * ·)) 1
  return (n, single)
where
  factor? (part : Octets) : Option Nat :=
    match part.reverse with
    | 'c' :: digits => if Octets.isNumber digits then some (Octets.natural digits.reverse) else none
    | 'w' :: digits => if Octets.isNumber digits then some (2 * Octets.natural digits.reverse) else none
    | _ => count? part

def words : List (String × List String) :=
  [("conv", ["ascii", "ebcdic", "ibm", "block", "unblock", "lcase", "ucase", "sparse", "swab",
      "sync", "excl", "nocreat", "notrunc", "noerror", "fdatasync", "fsync"]),
   ("status", ["none", "noxfer", "progress"]),
   ("iflag", ["append", "direct", "directory", "dsync", "sync", "fullblock", "nonblock", "noatime",
      "nocache", "noctty", "nofollow", "count_bytes", "skip_bytes"]),
   ("oflag", ["append", "direct", "directory", "dsync", "sync", "nonblock", "noatime", "nocache",
      "noctty", "nofollow", "seek_bytes"])]

def complaintAbout (name : String) (word : Octets) : Octets :=
  let what := match name with
    | "conv" => "conversion"
    | "status" => "status level"
    | "iflag" => "input flag"
    | _ => "output flag"
  Octets.say s!"invalid {what}: " ++ quoted word

def fault? (given : List (String × Octets)) : Option (Octets × Bool) :=
  given.findSome? fun (name, value) =>
    match words.lookup name with
    | some allowed =>
      ((Path.cutAt ',' value).find? fun word => !allowed.contains (String.ofList word)).map
        fun word => (complaintAbout name word, true)
    | none =>
      if name = "if" || name = "of" then none
      else if ["bs", "ibs", "obs", "cbs", "count", "skip", "seek"].contains name then
        match product? value with
        | none => some (Octets.say "invalid number: " ++ quoted value, false)
        | some (n, _) =>
          if n = 0 && name.endsWith "bs" then some (Octets.say "invalid number: " ++ quoted value, false)
          else none
      else
        let text := if value = [] then name.toList else name.toList ++ '=' :: value
        some (Octets.say "unrecognized operand " ++ quoted text, true)

def swapped : Octets → Octets
  | a :: b :: rest => b :: a :: swapped rest
  | rest => rest

end Copying

open Copying in
def copyBytes (c : Call) : Running Unit := do
  let given := c.operands.map fun text =>
    let name := text.takeWhile (· != '=')
    (String.ofList name, text.drop (name.length + 1))
  match fault? given with
  | some (text, hint) => if hint then tryHelp c text else complain c text
  | none =>
    let value? (name : String) : Option Octets := given.reverse.lookup name
    let number (name : String) : Option (Nat × Bool) := (value? name).bind product?
    let size (name : String) : Nat := (((number "bs").or (number name)).map (·.1)).getD 512
    let listed (name : String) : List String :=
      (Path.cutAt ',' ((value? name).getD [])).map String.ofList
    let inBytes (name flags flag : String) : Bool :=
      (listed flags).contains flag || (number name).any (·.2)
    let amount (name flags flag block : String) : Option Nat :=
      (number name).map fun (n, _) => if inBytes name flags flag then n else n * size block
    let conversions := listed "conv"
    let skip := (amount "skip" "iflag" "skip_bytes" "ibs").getD 0
    let most := amount "count" "iflag" "count_bytes" "ibs"
    let source := (value? "if").getD ['-']
    let limit := match most with
      | some n => skip + n
      | none => Files.endless
    match ← readNamed c limit source with
    | .error error =>
      complain c (Octets.say "failed to open " ++ quoted source ++ Octets.say s!": {error.reason}")
    | .ok text =>
      let text := text.drop skip
      let text := match most with
        | some n => text.take n
        | none => text
      if source = ['-'] && most.isSome && text != [] then needed (.bytes (skip + text.length))
      let block := size "ibs"
      let filled := if conversions.contains "sync" then
          text ++ List.replicate ((block - text.length % block) % block) '\x00'
        else text
      let changed := if conversions.contains "swab" then swapped filled else filled
      let changed := if conversions.contains "ucase" then changed.map Char.toUpper
        else if conversions.contains "lcase" then changed.map Char.toLower else changed
      match value? "of" with
      | none => print changed
      | some file =>
        let start := (amount "seek" "oflag" "seek_bytes" "obs").getD 0
        let old := ((c.files.read c.here (pathOf file)).toOption).getD []
        let start := if (listed "oflag").contains "append" then old.length else start
        let kept := if conversions.contains "notrunc" || (listed "oflag").contains "append" then old
          else old.take start
        let bytes := World.overwrite kept start (Octets.toBytes changed)
        match (← get).files.write c.here (pathOf file) bytes with
        | .ok files => modify ({ · with files })
        | .error error =>
          complain c (Octets.say "failed to open " ++ quoted file ++
            Octets.say s!": {error.reason}")
      unless value? "status" = some "none".toList do
        let whole := text.length / block
        let part := if text.length % block = 0 then 0 else 1
        let outBlock := size "obs"
        let wholeOut := changed.length / outBlock
        let partOut := if changed.length % outBlock = 0 then 0 else 1
        tell (Octets.say s!"{whole}+{part} records in\n{wholeOut}+{partOut} records out\n")
        unless value? "status" = some "noxfer".toList do
          tell (Octets.say s!"{text.length} bytes copied, 0 s, 0 B/s\n")

namespace Comparing

structure Difference where
  place : Nat
  line : Nat
  first : Char
  second : Char

def differences : (place line : Nat) → Octets → Octets → List Difference × Nat × Nat
  | place, line, c :: rest, d :: more =>
    let later := differences (place + 1) (if c = '\n' then line + 1 else line) rest more
    if c = d then later else (⟨place, line, c, d⟩ :: later.1, later.2)
  | place, line, _, _ => ([], place, line)

def visible (c : Char) : Octets :=
  let low (n : Nat) : Octets :=
    if n < 32 then ['^', Octets.byte (n + 64)] else if n = 127 then ['^', '?'] else [Octets.byte n]
  if c.toNat < 128 then low c.toNat else 'M' :: '-' :: low (c.toNat - 128)

def inOctal (c : Char) : Octets := padLeft 3 (Nat.toDigits 8 c.toNat)

def settings : Options := {
  flags := "bls", valued := "in"
  long := [("print-bytes", 'b'), ("ignore-initial", 'i'), ("verbose", 'l'), ("bytes", 'n'),
    ("silent", 's'), ("quiet", 's')] }

def skipped? (value : Octets) : Option (Nat × Nat) :=
  match Path.cutAt ':' value with
  | [both] => (count? both).map fun n => (n, n)
  | [first, second] => do return (← count? first, ← count? second)
  | _ => none

end Comparing

open Comparing in
def cmp (c : Call) : Running Unit :=
  let wrong (text : Octets) : Running Unit := do
    complain c text 2
    tell (c.name ++ Octets.say ": Try '" ++ c.name ++ Octets.say " --help' for more information.\n")
  match settings.parse c.operands.length c.operands with
  | .error text => wrong text
  | .ok given => do
    let skips := ((given.value? 'i').map skipped?).getD (some (0, 0))
    let limit := (given.value? 'n').map count?
    match skips, limit, given.operands with
    | none, _, _ => wrong (Octets.say "invalid --ignore-initial value " ++ quoted ((given.value? 'i').getD []))
    | _, some none, _ => wrong (Octets.say "invalid --bytes value " ++ quoted ((given.value? 'n').getD []))
    | _, _, [] => wrong (Octets.say "missing operand after " ++ quoted c.name)
    | _, _, _ :: _ :: _ :: _ :: extra :: _ => wrong (Octets.say "extra operand " ++ quoted extra)
    | some (skipFirst, skipSecond), limit, first :: rest =>
      if given.has 'l' && given.has 's' then wrong (Octets.say "options -l and -s are incompatible")
      else
        let second := rest.headD ['-']
        let skipOf (i before : Nat) : Nat := ((rest[i]?).bind count?).getD before
        let a ← readNamed c Files.endless first
        let b ← if second = first then pure a else readNamed c Files.endless second
        match a, b with
        | .error error, _ =>
          if given.has 's' then fails 2 else complain c (first ++ Octets.say s!": {error.reason}") 2
        | _, .error error =>
          if given.has 's' then fails 2 else complain c (second ++ Octets.say s!": {error.reason}") 2
        | .ok a, .ok b =>
          let part (skip : Nat) (text : Octets) : Octets := match limit with
            | some (some n) => (text.drop skip).take n
            | _ => text.drop skip
          let a := part (skipOf 1 skipFirst) a
          let b := part (skipOf 2 skipSecond) b
          if a != b then
            fails 1
            unless given.has 's' do
              let (found, place, line) := differences 1 1 a b
              let sign (c : Char) : Octets := padRight 4 (visible c)
              if given.has 'l' then
                let width := (Nat.toDigits 10 (min a.length b.length)).length
                for d in found do
                  let at_ := padLeft width (Octets.ofInt (d.place : Nat)) ++ [' ']
                  if given.has 'b' then
                    print (at_ ++ inOctal d.first ++ ' ' :: sign d.first ++ ' ' :: inOctal d.second ++
                      ' ' :: visible d.second ++ ['\n'])
                  else print (at_ ++ inOctal d.first ++ ' ' :: inOctal d.second ++ ['\n'])
              match found with
              | d :: _ =>
                unless given.has 'l' do
                  if given.has 'b' then
                    print (first ++ ' ' :: second ++
                      Octets.say s!" differ: byte {d.place}, line {d.line} is " ++ inOctal d.first ++
                      ' ' :: visible d.first ++ ' ' :: inOctal d.second ++ ' ' :: visible d.second ++
                      ['\n'])
                  else
                    print (first ++ ' ' :: second ++
                      Octets.say s!" differ: char {d.place}, line {d.line}\n")
              | [] => pure ()
              if a.length != b.length && (found.isEmpty || given.has 'l') then
                let shorter := if a.length < b.length then a else b
                let short := if a.length < b.length then first else second
                let ending := if place = 1 then "which is empty"
                  else if given.has 'l' then s!"after byte {place - 1}"
                  else if shorter.getLast? = some '\n' then
                    s!"after byte {place - 1}, line {line - 1}"
                  else s!"after byte {place - 1}, in line {line}"
                tell (c.name ++ Octets.say ": EOF on " ++ short ++ Octets.say s!" {ending}\n")

end SvelteTransform.Sandbox.Tools
