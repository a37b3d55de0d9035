import SvelteTransform.Sandbox.Tools.Text

/-! Lines that are the same as the one before them. -/
namespace SvelteTransform.Sandbox.Tools

namespace Repeated

inductive Spacing where
  | none
  | before
  | after
  | between
  | around
  deriving DecidableEq

structure Rule where
  fields : Nat := 0
  characters : Nat := 0
  width : Option Nat := none
  folds : Bool := false

def Rule.key (r : Rule) (line : Octets) : Octets :=
  let rest := (List.range r.fields).foldl (fun rest _ =>
    (rest.dropWhile Octets.isBlank).dropWhile (!Octets.isBlank ·)) line
  let rest := rest.drop r.characters
  let rest := match r.width with
    | some n => rest.take n
    | none => rest
  if r.folds then rest.map Char.toLower else rest

def groups (r : Rule) (lines : List Octets) : List (List Octets) :=
  ((lines.map fun line => (r.key line, line)).splitBy fun a b => a.1 = b.1).map (·.map (·.2))

def spaced (spacing : Spacing) (lineEnd : Char) (groups : List (List Octets)) : Octets :=
  let text (group : List Octets) : Octets := group.flatMap (· ++ [lineEnd])
  let between := [lineEnd].intercalate (groups.map text)
  if groups.isEmpty then []
  else match spacing with
    | .none => groups.flatMap text
    | .between => between
    | .before => lineEnd :: between
    | .after => between ++ [lineEnd]
    | .around => lineEnd :: between ++ [lineEnd]

def wordOf (option : String) (words : List (String × Spacing)) (value : Octets) :
    Except Octets Spacing :=
  match words.find? fun (word, _) => value.isPrefixOf word.toList with
  | some (_, spacing) => .ok spacing
  | none =>
    .error (Octets.say "invalid argument " ++ quoted value ++ Octets.say s!" for '--{option}'\n" ++
      Octets.say "Valid arguments are:" ++
      words.flatMap fun (word, _) => Octets.say s!"\n  - '{word}'")

def settings : Options := {
  flags := "cduiDz0123456789", valued := "fsw", optional := "AG"
  long := [("count", 'c'), ("repeated", 'd'), ("unique", 'u'), ("ignore-case", 'i'),
    ("all-repeated", 'A'), ("group", 'G'), ("skip-fields", 'f'), ("skip-chars", 's'),
    ("check-chars", 'w'), ("zero-terminated", 'z')] }

def ruleOf (given : Given) : Except Octets Rule :=
  given.options.foldlM (fun (r : Rule) (letter, value) =>
    let number (what : String) : Except Octets Nat :=
      if Octets.isNumber value then .ok (Octets.natural value)
      else .error (value ++ Octets.say s!": invalid number of {what}")
    match letter with
    | 'f' => do return { r with fields := (← number "fields to skip") }
    | 's' => do return { r with characters := (← number "bytes to skip") }
    | 'w' => do return { r with width := some (← number "bytes to compare") }
    | 'i' => .ok { r with folds := true }
    | _ => .ok r) {}

end Repeated

open Repeated in
def uniq (c : Call) : Running Unit :=
  withOptions c settings fun given => do
    let digits := (given.options.map (·.1)).filter Octets.isDigit
    let lineEnd := if given.has 'z' then '\x00' else '\n'
    let groupWords := [("prepend", Spacing.before), ("append", .after), ("separate", .between),
      ("both", .around)]
    let allWords := [("none", Spacing.none), ("prepend", .before), ("separate", .between)]
    let spacing : Except Octets (Option Spacing × Option Spacing) := do
      let all ← match given.value? 'A' with
        | some [] => pure (some Spacing.none)
        | some value => do pure (some (← wordOf "all-repeated" allWords value))
        | none => pure (if given.has 'D' then some Spacing.none else none)
      let grouped ← match given.value? 'G' with
        | some [] => pure (some Spacing.between)
        | some value => do pure (some (← wordOf "group" groupWords value))
        | none => pure none
      return (all, grouped)
    match ruleOf given, spacing, given.operands with
    | .error text, _, _ => complain c text
    | _, .error text, _ => tryHelp c text
    | _, _, _ :: _ :: extra :: _ => tryHelp c (Octets.say "extra operand " ++ quoted extra)
    | .ok rule, .ok (all, grouped), operands =>
      let rule := if digits = [] then rule else { rule with fields := Octets.natural digits }
      if grouped.isSome && (given.has 'c' || all.isSome || given.has 'd' || given.has 'u') then
        tryHelp c (Octets.say "--group is mutually exclusive with -c/-d/-D/-u")
      else if all.isSome && given.has 'c' then
        tryHelp c (Octets.say "printing all duplicated lines and repeat counts is meaningless")
      else
        let file := operands.headD ['-']
        match ← readNamed c Files.endless file with
        | .error .isDirectory => complain c (Octets.say "error reading " ++ quoted file ++
            Octets.say ": Is a directory")
        | .error error => complainOf c file error
        | .ok text =>
          let lines := (Octets.partsTo lineEnd text).map fun line =>
            if line.getLast? = some lineEnd then line.dropLast else line
          let found := groups rule lines
          let repeats (group : List Octets) : Bool := 1 < group.length
          let output := match all, grouped with
            | some spacing, _ =>
              if given.has 'u' then [] else spaced spacing lineEnd (found.filter repeats)
            | none, some spacing => spaced spacing lineEnd found
            | none, none =>
              let wanted := found.filter fun group =>
                !(given.has 'd' && !repeats group) && !(given.has 'u' && repeats group)
              wanted.flatMap fun group =>
                (if given.has 'c' then padLeft 7 (Octets.ofInt (group.length : Nat)) ++ [' '] else []) ++
                  group.headD [] ++ [lineEnd]
          match operands with
          | [_, target] =>
            if target = ['-'] then print output
            else match (← get).files.write c.here (pathOf target) (Octets.toBytes output) with
              | .ok files => modify ({ · with files })
              | .error error => complainOf c target error
          | _ => print output

end SvelteTransform.Sandbox.Tools
