import SvelteTransform.Sandbox.Awk.Search
import SvelteTransform.Sandbox.Awk.Value

/-! Records and their fields: how a text is taken apart. -/
namespace SvelteTransform.Sandbox.Awk

inductive Separator where
  | blanks
  | nothing
  | character (c : Char)
  | matching (r : Regex)

def Separator.ofText (text : Octets) : Except Search.Flaw Separator :=
  match text with
  | [' '] => .ok .blanks
  | [] => .ok .nothing
  | [c] => .ok (.character c)
  | text => (Search.read text).map .matching

def isBlank (c : Char) : Bool := c = ' ' || c = '\t' || c = '\n'

def words : (fuel : Nat) → Octets → List Octets
  | 0, _ => []
  | fuel + 1, text =>
    let text := text.dropWhile isBlank
    if text = [] then []
    else
      let word := text.takeWhile (!isBlank ·)
      word :: words fuel (text.drop word.length)

def firstMatch (r : Regex) : (fuel : Nat) → Regex.Place → Option Regex.Match
  | 0, _ => none
  | fuel + 1, p =>
    match (r.matchAt false false p).filter (·.text != []) with
    | some m => some m
    | none =>
      match p.rest with
      | [] => none
      | c :: rest => firstMatch r fuel (p.step c rest)

def partsBetween (r : Regex) : (fuel : Nat) → Regex.Place → List Octets
  | 0, p => [p.rest]
  | fuel + 1, p =>
    match firstMatch r (p.rest.length + 1) p with
    | none => [p.rest]
    | some m =>
      let count := m.start - p.passed + m.text.length
      let after : Regex.Place :=
        { p with
          passed := p.passed + count
          previous := m.text.getLast?
          rest := p.rest.drop count }
      p.rest.take (m.start - p.passed) :: partsBetween r fuel after

def Separator.split (s : Separator) (text : Octets) : List Octets :=
  if text = [] then []
  else match s with
    | .blanks => words (text.length + 1) text
    | .nothing => text.map fun c => [c]
    | .character c => Path.cutAt c text
    | .matching r => partsBetween r (text.length + 1) ⟨0, none, text, []⟩

structure Record where
  text : Value := .text []
  fields : List Value := []

namespace Record

def ofValue (s : Separator) (format : Octets) (text : Value) : Record :=
  { text, fields := (s.split (text.toText format)).map Value.ofInput }

def joined (separator format : Octets) (fields : List Value) : Record :=
  { text := Value.ofInput (separator.intercalate (fields.map (·.toText format))), fields }

def resized (count : Nat) (fields : List Value) : List Value :=
  fields.take count ++ List.replicate (count - fields.length) (.text [])

def field (r : Record) (n : Nat) : Value :=
  if n = 0 then r.text else (r.fields[n - 1]?).getD (.text [])

def setField (separator format : Octets) (n : Nat) (v : Value) (r : Record) : Record :=
  joined separator format ((resized (max n r.fields.length) r.fields).set (n - 1) v)

def setCount (separator format : Octets) (count : Nat) (r : Record) : Record :=
  joined separator format (resized count r.fields)

end Record

def nextParagraph (text : Octets) : Option (Octets × Octets) :=
  let text := text.dropWhile (· = '\n')
  if text = [] then none
  else
    let rec upTo : Octets → Octets × Octets
      | '\n' :: '\n' :: rest => ([], rest.dropWhile (· = '\n'))
      | ['\n'] => ([], [])
      | c :: rest =>
        let (line, rest) := upTo rest
        (c :: line, rest)
      | [] => ([], [])
    some (upTo text)

def nextRecord (separator : Octets) (text : Octets) :
    Except Search.Flaw (Option (Octets × Octets)) :=
  if separator = [] then .ok (nextParagraph text)
  else if text = [] then .ok none
  else match separator with
    | [c] =>
      let record := text.takeWhile (· != c)
      .ok (some (record, text.drop (record.length + 1)))
    | separator => do
      let r ← Search.read separator
      return match firstMatch r (text.length + 1) ⟨0, none, text, []⟩ with
        | some m => some (text.take m.start, text.drop (m.start + m.text.length))
        | none => some (text, [])

end SvelteTransform.Sandbox.Awk
