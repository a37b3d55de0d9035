import SvelteTransform.Sandbox.Numeral
import SvelteTransform.Sandbox.Regex

/-! Scripts for editing lines, and how they are written: commands, each perhaps for some lines
only, one after the other. -/
namespace SvelteTransform.Sandbox.Tools.EditScript

structure Sought where
  expression : Option Regex
  folds : Bool := false
  multiline : Bool := false

inductive Address where
  | line (n : Nat)
  | last
  | holding (sought : Sought)
  | every (first step : Nat)

inductive End where
  | at_ (address : Address)
  | after (count : Nat)
  | multiple (n : Nat)

structure Lines where
  first : Address
  final : Option End := none

inductive Case where
  | asIs
  | upper
  | lower
  deriving DecidableEq, Repr

inductive Part where
  | text (text : Octets)
  | group (n : Nat)
  | case (case : Case)
  | caseOfNext (case : Case)
  deriving DecidableEq, Repr

structure Substitution where
  sought : Sought
  parts : List Part
  everywhere : Bool := false
  prints : Bool := false
  number : Nat := 1
  file : Option Octets := none

inductive Verb where
  | substitute (s : Substitution)
  | transliterate (pairs : List (Char × Char))
  | delete
  | deleteLine
  | print
  | printLine
  | next
  | nextAdded
  | quit (status : Nat) (prints : Bool)
  | number
  | spell (width : Option Nat)
  | fileName
  | clear
  | append (text : Octets)
  | insert (text : Octets)
  | change (text : Octets)
  | hold
  | holdAdded
  | fetch
  | fetchAdded
  | exchange
  | read (file : Octets)
  | readLine (file : Octets)
  | write (file : Octets)
  | writeLine (file : Octets)
  | label (name : Octets)
  | branch (name : Octets)
  | branchIf (name : Octets) (substituted : Bool)
  | opening
  | closing

structure Command where
  place : Nat
  lines : Option Lines
  negated : Bool
  verb : Verb

structure Fault where
  text : String
  left : Nat

abbrev Reader := Except Fault

def fault {α : Type} (rest : Octets) (text : String) : Reader α := .error ⟨text, rest.length⟩

def delimited (delimiter : Char) (isSought : Bool) : Octets → Option (Octets × Octets)
  | [] => none
  | '\\' :: c :: rest => do
    let (text, rest) ← delimited delimiter isSought rest
    if c = 'n' && isSought then return ('\n' :: text, rest)
    else if c = '\n' || (c = delimiter && (isSought || c != '&')) then return (c :: text, rest)
    else return ('\\' :: c :: text, rest)
  | c :: rest =>
    if c = delimiter then some ([], rest)
    else if c = '\n' then none
    else do
      let (text, rest) ← delimited delimiter isSought rest
      return (c :: text, rest)

def expression (extended : Bool) (rest text : Octets) : Reader (Option Regex) :=
  if text = [] then .ok none
  else match Regex.ofText? extended text with
    | some r => .ok (some r)
    | none => fault rest (Regex.fault extended text)

def spaces (rest : Octets) : Octets := rest.dropWhile Octets.isSpace
def blanks (rest : Octets) : Octets := rest.dropWhile Octets.isBlank

def isCommandEnd (c : Char) : Bool := c = '\n' || c = ';' || c = '#' || c = '\x7d'

def commandEnd (rest : Octets) : Reader Octets :=
  match blanks rest with
  | [] => .ok []
  | c :: more =>
    if c = '\n' || c = ';' then .ok more
    else if isCommandEnd c then .ok (c :: more)
    else fault more "extra characters after command"

def name (rest : Octets) : Octets × Octets :=
  let text := (blanks rest).takeWhile fun c => !(c = ';' || Octets.isSpace c)
  (text, (blanks rest).drop text.length)

def fileName (rest : Octets) : Reader (Octets × Octets) :=
  let text := (blanks rest).takeWhile (· != '\n')
  if text = [] then fault rest "missing filename in r/R/w/W commands"
  else .ok (text, (blanks rest).drop (text.length + 1))

def textLines : Octets → Octets × Octets
  | [] => (['\n'], [])
  | '\\' :: c :: rest =>
    let (text, rest) := textLines rest
    (c :: text, rest)
  | ['\\'] => ([], [])
  | '\n' :: rest => (['\n'], rest)
  | c :: rest =>
    let (text, rest) := textLines rest
    (c :: text, rest)

def addedText (rest : Octets) : Reader (Octets × Octets) :=
  match blanks rest with
  | [] => fault [] "expected \\ after \x60a', \x60c' or \x60i'"
  | '\\' :: more =>
    match blanks more with
    | '\n' :: text => .ok (textLines text)
    | [] => .ok ([], [])
    | _ => .ok (textLines more)
  | text => .ok (textLines text)

def numbered (c : Char) (rest : Octets) : Option (Char × Octets) :=
  let digits (base count : Nat) : Option (Char × Octets) :=
    let found := (rest.take count).takeWhile (Numeral.isDigitOf base)
    if found = [] then none
    else some (Octets.byte (Numeral.valueOf base found), rest.drop found.length)
  match c with
  | 'x' => digits 16 2
  | 'o' => digits 8 3
  | 'd' => digits 10 3
  | _ => none

def plainEscape? (c : Char) : Option Char :=
  match c with
  | 'n' => some '\n'
  | 't' => some '\t'
  | 'r' => some '\r'
  | 'f' => some '\x0c'
  | 'v' => some '\x0b'
  | 'a' => some '\x07'
  | _ => none

def parts : (fuel : Nat) → Octets → List Part
  | 0, _ | _, [] => []
  | fuel + 1, '&' :: rest => .group 0 :: parts fuel rest
  | fuel + 1, '\\' :: c :: rest =>
    match c, plainEscape? c, numbered c rest with
    | _, some d, _ => .text [d] :: parts fuel rest
    | _, _, some (d, rest) => .text [d] :: parts fuel rest
    | 'U', _, _ => .case .upper :: parts fuel rest
    | 'L', _, _ => .case .lower :: parts fuel rest
    | 'E', _, _ => .case .asIs :: parts fuel rest
    | 'u', _, _ => .caseOfNext .upper :: parts fuel rest
    | 'l', _, _ => .caseOfNext .lower :: parts fuel rest
    | c, _, _ =>
      if Octets.isDigit c then .group (c.toNat - '0'.toNat) :: parts fuel rest
      else .text [c] :: parts fuel rest
  | fuel + 1, c :: rest =>
    let text := (c :: rest).takeWhile fun c => c != '&' && c != '\\'
    if text = [] then [.text [c]]
    else .text text :: parts fuel ((c :: rest).drop text.length)

def groupCount : Regex → Nat
  | .group n inside => max n (groupCount inside)
  | .both a b | .either a b => max (groupCount a) (groupCount b)
  | .many inside _ _ => groupCount inside
  | _ => 0

def flags (s : Substitution) : (fuel : Nat) → Octets → Reader (Substitution × Octets)
  | 0, rest => .ok (s, rest)
  | fuel + 1, rest =>
    match rest with
    | 'g' :: more =>
      if s.everywhere then fault more "multiple \x60g' options to \x60s' command"
      else flags { s with everywhere := true } fuel more
    | 'p' :: more =>
      if s.prints then fault more "multiple \x60p' options to \x60s' command"
      else flags { s with prints := true } fuel more
    | 'i' :: more | 'I' :: more =>
      flags { s with sought := { s.sought with folds := true } } fuel more
    | 'm' :: more | 'M' :: more =>
      flags { s with sought := { s.sought with multiline := true } } fuel more
    | 'w' :: more => do
      let (file, rest) ← fileName more
      return ({ s with file := some file }, rest)
    | rest =>
      let digits := rest.takeWhile Octets.isDigit
      if digits != [] then
        let n := Octets.natural digits
        let rest := rest.drop digits.length
        if n = 0 then fault rest "number option to \x60s' command may not be zero"
        else flags { s with number := n } fuel rest
      else match blanks rest with
        | [] => .ok (s, [])
        | c :: more =>
          if c = '\n' || c = ';' then .ok (s, more)
          else if isCommandEnd c then .ok (s, c :: more)
          else fault more "unknown option to \x60s'"

def substitution (extended : Bool) (rest : Octets) : Reader (Verb × Octets) := do
  let broken {α : Type} : Reader α := fault [] "unterminated \x60s' command"
  match rest with
  | [] => broken
  | delimiter :: rest =>
    match delimited delimiter true rest with
    | none => broken
    | some (sought, rest) =>
      match delimited delimiter false rest with
      | none => broken
      | some (put, rest) =>
        let parts := parts put.length put
        let (s, left) ← flags { sought := ⟨none, false, false⟩, parts } (rest.length + 1) rest
        let expression ← expression extended left sought
        let most := (parts.map fun part => match part with
          | .group n => n
          | _ => 0).foldl max 0
        if let some r := expression then
          if groupCount r < most then
            fault left s!"invalid reference \\{most} on \x60s' command's RHS"
        return (.substitute { s with sought := { s.sought with expression } }, left)

def characters : Octets → Octets
  | '\\' :: '\\' :: rest => '\\' :: characters rest
  | '\\' :: c :: rest =>
    match plainEscape? c with
    | some d => d :: characters rest
    | none => '\\' :: c :: characters rest
  | c :: rest => c :: characters rest
  | [] => []

def transliteration (rest : Octets) : Reader (Verb × Octets) := do
  let broken {α : Type} : Reader α := fault [] "unterminated \x60y' command"
  match rest with
  | [] => broken
  | delimiter :: rest =>
    match delimited delimiter false rest with
    | none => broken
    | some (old, rest) =>
      match delimited delimiter false rest with
      | none => broken
      | some (new, rest) =>
        let old := characters old
        let new := characters new
        if old.length != new.length then
          fault rest "strings for \x60y' command are different lengths"
        else return (.transliterate (old.zip new), ← commandEnd rest)

def addressFlags (s : Sought) : Octets → Sought × Octets
  | 'I' :: rest => addressFlags { s with folds := true } rest
  | 'M' :: rest => addressFlags { s with multiline := true } rest
  | rest => (s, rest)

def address (extended : Bool) (rest : Octets) : Reader (Option (Address × Octets)) := do
  let holding (delimiter : Char) (rest : Octets) : Reader (Option (Address × Octets)) := do
    match delimited delimiter true rest with
    | none => fault [] "unterminated address regex"
    | some (text, rest) =>
      let (sought, rest) := addressFlags ⟨← expression extended rest text, false, false⟩ rest
      return some (.holding sought, rest)
  match rest with
  | '$' :: rest => return some (.last, rest)
  | '/' :: rest => holding '/' rest
  | '\\' :: c :: rest => holding c rest
  | rest =>
    let digits := rest.takeWhile Octets.isDigit
    if digits = [] then return none
    let first := Octets.natural digits
    match rest.drop digits.length with
    | '~' :: more =>
      let step := more.takeWhile Octets.isDigit
      return some (.every first (Octets.natural step), more.drop step.length)
    | rest => return some (.line first, rest)

def rangeEnd (extended : Bool) (rest : Octets) : Reader (End × Octets) := do
  match spaces rest with
  | '+' :: rest =>
    let digits := rest.takeWhile Octets.isDigit
    return (.after (Octets.natural digits), rest.drop digits.length)
  | '~' :: rest =>
    let digits := rest.takeWhile Octets.isDigit
    return (.multiple (Octets.natural digits), rest.drop digits.length)
  | rest =>
    match ← address extended rest with
    | some (address, rest) => return (.at_ address, rest)
    | none => fault rest.tail "unexpected \x60,'"

def isLineZero : Address → Bool
  | .line 0 => true
  | _ => false

def lines (extended : Bool) (rest : Octets) : Reader (Option Lines × Octets) := do
  match ← address extended rest with
  | none => return (none, rest)
  | some (first, rest) =>
    match spaces rest with
    | ',' :: more =>
      let (final, rest) ← rangeEnd extended more
      let untilFound := match final with
        | .at_ (.holding _) => true
        | _ => false
      if isLineZero first && !untilFound then
        fault rest.tail "invalid usage of line address 0"
      return (some ⟨first, some final⟩, rest)
    | rest =>
      if isLineZero first then fault rest.tail "invalid usage of line address 0"
      return (some ⟨first, none⟩, rest)

def verb (extended : Bool) (c : Char) (rest : Octets) : Reader (Verb × Octets) := do
  let plain (v : Verb) : Reader (Verb × Octets) := return (v, ← commandEnd rest)
  let status (prints : Bool) : Reader (Verb × Octets) := do
    let digits := (blanks rest).takeWhile Octets.isDigit
    return (.quit (Octets.natural digits) prints,
      ← commandEnd ((blanks rest).drop digits.length))
  let named (f : Octets → Verb) : Reader (Verb × Octets) := do
    let (text, rest) := name rest
    return (f text, ← commandEnd rest)
  let withText (f : Octets → Verb) : Reader (Verb × Octets) := do
    let (text, rest) ← addedText rest
    return (f text, rest)
  let withFile (f : Octets → Verb) : Reader (Verb × Octets) := do
    let (text, rest) ← fileName rest
    return (f text, rest)
  match c with
  | 's' => substitution extended rest
  | 'y' => transliteration rest
  | '\x7b' => return (.opening, rest)
  | '\x7d' => plain .closing
  | 'd' => plain .delete
  | 'D' => plain .deleteLine
  | 'p' => plain .print
  | 'P' => plain .printLine
  | 'n' => plain .next
  | 'N' => plain .nextAdded
  | 'q' => status true
  | 'Q' => status false
  | '=' => plain .number
  | 'l' =>
    let digits := (blanks rest).takeWhile Octets.isDigit
    let width := if digits = [] then none else some (Octets.natural digits)
    return (.spell width, ← commandEnd ((blanks rest).drop digits.length))
  | 'F' => plain .fileName
  | 'z' => plain .clear
  | 'h' => plain .hold
  | 'H' => plain .holdAdded
  | 'g' => plain .fetch
  | 'G' => plain .fetchAdded
  | 'x' => plain .exchange
  | 'a' => withText .append
  | 'i' => withText .insert
  | 'c' => withText .change
  | 'r' => withFile .read
  | 'R' => withFile .readLine
  | 'w' => withFile .write
  | 'W' => withFile .writeLine
  | 'b' => named .branch
  | 't' => named (.branchIf · true)
  | 'T' => named (.branchIf · false)
  | ':' =>
    let (text, more) := name rest
    if text = [] then fault rest "\":\" lacks a label"
    return (.label text, more)
  | c => fault rest s!"unknown command: \x60{c}'"

def commands (extended : Bool) : (fuel : Nat) → (place depth : Nat) → Octets →
    Reader (List Command)
  | 0, _, _, _ => .ok []
  | fuel + 1, place, depth, rest => do
    match rest.dropWhile fun c => Octets.isSpace c || c = ';' with
    | [] => if depth = 0 then return [] else .error ⟨"unmatched \x60\x7b'", 0⟩
    | '#' :: rest => commands extended fuel place depth (rest.dropWhile (· != '\n'))
    | rest =>
      let (lines, rest) ← lines extended rest
      let rest := spaces rest
      let (negated, rest) := match rest with
        | '!' :: rest => (true, (rest.dropWhile (· = '!')).dropWhile Octets.isSpace)
        | rest => (false, rest)
      match rest with
      | [] => fault [] "missing command"
      | c :: rest =>
        if c = '\x7d' && depth = 0 then fault rest "unexpected \x60\x7d'"
        let (verb, rest) ← verb extended c rest
        let depth := match verb with
          | .opening => depth + 1
          | .closing => depth - 1
          | _ => depth
        return ⟨place, lines, negated, verb⟩ :: (← commands extended fuel (place + 1) depth rest)

def ofText (extended : Bool) (text : Octets) : Except (String × Nat) (List Command) :=
  match commands extended (text.length + 1) 0 0 text with
  | .ok found => .ok found
  | .error f =>
    .error (f.text, if f.text.startsWith "unmatched" then 0 else text.length - f.left)

def missingLabel (script : List Command) : Option Octets :=
  let there := script.filterMap fun command => match command.verb with
    | .label name => some name
    | _ => none
  script.findSome? fun command => match command.verb with
    | .branch name | .branchIf name _ => if name = [] || there.contains name then none else some name
    | _ => none

end SvelteTransform.Sandbox.Tools.EditScript
