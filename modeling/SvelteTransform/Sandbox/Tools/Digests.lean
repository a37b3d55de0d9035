import SvelteTransform.Sandbox.Digest.Blake2
import SvelteTransform.Sandbox.Digest.Checksum
import SvelteTransform.Sandbox.Digest.Kind
import SvelteTransform.Sandbox.Digest.Rounds
import SvelteTransform.Sandbox.Tools.Text

/-! Programs that print digests of files, or compare them with a list of what they were. -/
namespace SvelteTransform.Sandbox.Tools.Digests
open Digest

def digestOf (kind : Kind) (size : Nat) (text : Octets) : Octets :=
  let message := Octets.toBytes text
  hexDigits <| match kind with
    | .md5 => Md5.digest message
    | .sha1 => Sha1.digest message
    | .sha224 => Sha2.sha224.digest message
    | .sha256 => Sha2.sha256.digest message
    | .sha384 => Sha2.sha384.digest message
    | .sha512 => Sha2.sha512.digest message
    | .blake2b => Blake2.digest size message

def escapedName (name : Octets) : Octets × Bool :=
  let changed (c : Char) : Bool := c = '\\' || c = '\n' || c = '\r'
  let write (c : Char) : Octets := match c with
    | '\\' => ['\\', '\\']
    | '\n' => ['\\', 'n']
    | '\r' => ['\\', 'r']
    | c => [c]
  (name.flatMap write, name.any changed)

def unescapedName : Octets → Octets
  | '\\' :: 'n' :: rest => '\n' :: unescapedName rest
  | '\\' :: 'r' :: rest => '\r' :: unescapedName rest
  | '\\' :: '\\' :: rest => '\\' :: unescapedName rest
  | c :: rest => c :: unescapedName rest
  | [] => []

structure Style where
  kind : Kind
  size : Nat
  tagged : Bool := false
  binary : Bool := false
  lineEnd : Char := '\n'

def Style.row (s : Style) (name digest : Octets) : Octets :=
  let (shown, escaped) := if s.lineEnd = '\n' then escapedName name else (name, false)
  let mark := if escaped then ['\\'] else []
  let body := if s.tagged then
      let width := if s.size = s.kind.size then "" else s!"-{8 * s.size}"
      Octets.say (s.kind.name ++ width ++ " (") ++ shown ++ Octets.say ") = " ++ digest
    else digest ++ (if s.binary then [' ', '*'] else [' ', ' ']) ++ shown
  mark ++ body ++ [s.lineEnd]

def printDigests (c : Call) (s : Style) (files : List Octets) : Running Unit := do
  for file in if files = [] then [['-']] else files do
    match ← readNamed c Files.endless file with
    | .ok text => print (s.row file (digestOf s.kind s.size text))
    | .error error => complainOf c file error

def entry? (s : Style) (line : Octets) : Option (Octets × Octets) :=
  let (escaped, line) := match line with
    | '\\' :: rest => (true, rest)
    | line => (false, line)
  let name (text : Octets) : Octets := if escaped then unescapedName text else text
  let isDigest (text : Octets) : Bool :=
    text.length = 2 * s.size && text.all fun c =>
      Octets.isDigit c || ('a' ≤ c && c ≤ 'f') || ('A' ≤ c && c ≤ 'F')
  let tag := Octets.say s!"{s.kind.name} ("
  if tag.isPrefixOf line then
    let rest := line.drop tag.length
    let digest := (rest.reverse.takeWhile (· != ' ')).reverse
    let before := rest.take (rest.length - digest.length)
    let ending := Octets.say ") = "
    if ending.isSuffixOf before && isDigest digest then
      some (name (before.take (before.length - ending.length)), digest)
    else none
  else
    let digest := line.takeWhile (· != ' ')
    match line.drop digest.length with
    | ' ' :: mark :: file =>
      if isDigest digest && (mark = ' ' || mark = '*') && file != [] then some (name file, digest)
      else none
    | _ => none

structure Tally where
  wellFormed : Nat := 0
  malformed : Nat := 0
  unreadable : Nat := 0
  different : Nat := 0
  same : Nat := 0

def warn (c : Call) (n : Nat) (one many : String) : Running Unit := do
  if 0 < n then
    let text := if n = 1 then one else many
    tell (c.name ++ Octets.say s!": WARNING: {n} {text}\n")

def checkList (c : Call) (s : Style) (given : Given) (list : Octets) : Running Unit := do
  match ← readNamed c Files.endless list with
  | .error error => complainOf c list error
  | .ok text =>
    let silent := given.has 's'
    let shown := if list = ['-'] then Octets.say "standard input" else list
    let mut t : Tally := {}
    for (line, n) in (Octets.lines text).zipIdx do
      let (body, _) := bodyAndEnd line
      let body := if body.getLast? = some '\r' then body.dropLast else body
      if body.head? != some '#' then
        match entry? s body with
        | none =>
          t := { t with malformed := t.malformed + 1 }
          if given.has 'w' then
            tell (c.name ++ Octets.say ": " ++ quotedIfWild shown ++
              Octets.say s!": {n + 1}: improperly formatted {s.kind.name} checksum line\n")
        | some (name, digest) =>
          t := { t with wellFormed := t.wellFormed + 1 }
          let (shown, escaped) := escapedName name
          let label := if escaped then '\\' :: shown else shown
          match ← readNamed c Files.endless name with
          | .error error =>
            unless given.has 'i' && error = .notFound do
              t := { t with unreadable := t.unreadable + 1 }
              complainOf c name error
              unless silent do print (label ++ Octets.say ": FAILED open or read\n")
          | .ok text =>
            if digestOf s.kind s.size text = digest.map Char.toLower then
              t := { t with same := t.same + 1 }
              unless silent || given.has 'q' do print (label ++ Octets.say ": OK\n")
            else
              t := { t with different := t.different + 1 }
              unless silent do print (label ++ Octets.say ": FAILED\n")
    if t.wellFormed = 0 then
      complain c (quotedIfWild shown ++ Octets.say ": no properly formatted checksum lines found")
    else
      unless silent do
        warn c t.malformed "line is improperly formatted" "lines are improperly formatted"
        warn c t.unreadable "listed file could not be read" "listed files could not be read"
        warn c t.different "computed checksum did NOT match" "computed checksums did NOT match"
      if given.has 'i' && t.same = 0 then
        complain c (quotedIfWild shown ++ Octets.say ": no file was verified")
      if t.unreadable + t.different != 0 || (given.has 'S' && t.malformed != 0) then fails 1

def digestSum (kind : Kind) (c : Call) : Running Unit :=
  let options : Options := {
    flags := "bctzw", valued := if kind = .blake2b then "l" else ""
    long := [("binary", 'b'), ("check", 'c'), ("text", 't'), ("zero", 'z'), ("warn", 'w'),
      ("tag", 'T'), ("quiet", 'q'), ("status", 's'), ("strict", 'S'), ("ignore-missing", 'i'),
      ("length", 'l')] }
  withOptions c options fun given => do
    let bits := ((given.value? 'l').map Octets.natural).getD 0
    let s : Style := {
      kind, size := if bits = 0 then kind.size else bits / 8
      tagged := given.has 'T', binary := given.has 'b'
      lineEnd := if given.has 'z' then '\x00' else '\n' }
    if given.has 'c' then
      for list in if given.operands = [] then [['-']] else given.operands do checkList c s given list
    else printDigests c s given.operands

def blocks (size : Nat) (text : Octets) : Nat := (text.length + size - 1) / size

inductive SumKind where
  | remainder
  | rotating
  | plain

def sumRow (kind : SumKind) (text : Octets) : Octets :=
  let bytes := Octets.toBytes text
  match kind with
  | .remainder => Octets.say s!"{Checksum.remainder bytes} {text.length}"
  | .rotating =>
    let sum := Octets.ofInt (Checksum.rotating bytes : Nat)
    List.replicate (5 - sum.length) '0' ++ sum ++ ' ' ::
      padLeft 5 (Octets.ofInt (blocks 1024 text : Nat))
  | .plain => Octets.say s!"{Checksum.plain bytes} {blocks 512 text}"

def printSums (c : Call) (kind : SumKind) (files : List Octets) : Running Unit := do
  for file in if files = [] then [['-']] else files do
    match ← readNamed c Files.endless file with
    | .ok text => print (sumRow kind text ++ (if files = [] then [] else ' ' :: file) ++ ['\n'])
    | .error error => complainOf c file error

def sum (c : Call) : Running Unit :=
  withOptions c { flags := "rs", long := [("sysv", 's')] } fun given =>
    let last := (given.options.getLast?.map (·.1)).getD 'r'
    printSums c (if last = 's' then .plain else .rotating) given.operands

def cksum (c : Call) : Running Unit :=
  let options : Options := {
    flags := "cw", valued := "al"
    long := [("algorithm", 'a'), ("length", 'l'), ("untagged", 'u'), ("tag", 'T'), ("check", 'c'),
      ("quiet", 'q'), ("status", 's'), ("strict", 'S'), ("warn", 'w'), ("ignore-missing", 'i')] }
  withOptions c options fun given => do
    let name := String.ofList ((given.value? 'a').getD "crc".toList)
    match name, Kind.all.find? fun k => k.name.map Char.toLower = name with
    | _, some kind =>
      let bits := ((given.value? 'l').map Octets.natural).getD 0
      let s : Style := {
        kind, size := if bits = 0 then kind.size else bits / 8, tagged := !given.has 'u' }
      if given.has 'c' then
        for list in if given.operands = [] then [['-']] else given.operands do
          checkList c s given list
      else printDigests c s given.operands
    | "crc", _ => printSums c .remainder given.operands
    | "bsd", _ => printSums c .rotating given.operands
    | "sysv", _ => printSums c .plain given.operands
    | _, _ =>
      complain c (Octets.say "invalid argument " ++ quoted name.toList ++
        Octets.say " for '--algorithm'")

end SvelteTransform.Sandbox.Tools.Digests
