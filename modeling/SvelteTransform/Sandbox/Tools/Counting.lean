import SvelteTransform.Sandbox.Tools.Text

/-! How many lines, words and characters there are. -/
namespace SvelteTransform.Sandbox.Tools

structure Counts where
  lines : Nat := 0
  words : Nat := 0
  bytes : Nat := 0
  widest : Nat := 0

namespace Counts

structure Reader where
  counts : Counts := {}
  column : Nat := 0
  inWord : Bool := false

def Reader.step (r : Reader) (c : Char) : Reader :=
  let n := r.counts
  let widest := max n.widest r.column
  let words := n.words + (if r.inWord then 1 else 0)
  let ended : Counts := { n with bytes := n.bytes + 1, words }
  match c with
  | '\n' => ⟨{ ended with lines := n.lines + 1, widest }, 0, false⟩
  | '\r' | '\x0c' => ⟨{ ended with widest }, 0, false⟩
  | '\t' => ⟨ended, r.column + (8 - r.column % 8), false⟩
  | ' ' => ⟨ended, r.column + 1, false⟩
  | '\x0b' => ⟨ended, r.column, false⟩
  | c =>
    let visible := ' ' < c && c ≤ '~'
    ⟨{ n with bytes := n.bytes + 1 }, if visible then r.column + 1 else r.column,
      r.inWord || visible⟩

def of (text : Octets) : Counts :=
  let r := text.foldl Reader.step {}
  { r.counts with
    words := r.counts.words + (if r.inWord then 1 else 0)
    widest := max r.counts.widest r.column }

def add (a b : Counts) : Counts :=
  ⟨a.lines + b.lines, a.words + b.words, a.bytes + b.bytes, max a.widest b.widest⟩

end Counts

def wc (c : Call) : Running Unit :=
  let options : Options := {
    flags := "lwcmL", valued := "T0"
    long := [("lines", 'l'), ("words", 'w'), ("bytes", 'c'), ("chars", 'm'),
      ("max-line-length", 'L'), ("total", 'T'), ("files0-from", '0')] }
  withOptions c options fun given => do
    let letters := given.options.filter fun (letter, _) => letter != 'T' && letter != '0'
    let shows (letter : Char) : Bool :=
      if letters = [] then letter = 'l' || letter = 'w' || letter = 'c'
      else letters.any (·.1 = letter)
    let total := String.ofList ((given.value? 'T').getD "auto".toList)
    let listed ← match given.value? '0' with
      | some file => do
        match ← readNamed c Files.endless file with
        | .ok text =>
          let names := Path.cutAt '\x00' text
          pure (if names.getLast? = some [] then names.dropLast else names)
        | .error error =>
          complain c (Octets.say "cannot open " ++ quoted file ++
            Octets.say s!" for reading: {error.reason}")
          pure []
      | none => pure given.operands
    if given.value? '0' != none && listed = [] then return
    let files := if listed = [] then [['-']] else listed
    let chosen (n : Counts) : List Nat :=
      (if shows 'l' then [n.lines] else []) ++ (if shows 'w' then [n.words] else []) ++
      (if shows 'm' then [n.bytes] else []) ++ (if shows 'c' then [n.bytes] else []) ++
      (if shows 'L' then [n.widest] else [])
    let isRegular (file : Octets) : Bool :=
      if file = ['-'] then c.inputIsFile
      else match c.files.find c.here (pathOf file) with
        | .ok (.node _ (.file _)) => true
        | _ => false
    let mut counted : List (Octets × Option Counts × Option SystemError) := []
    for file in files do
      match ← readNamed c Files.endless file with
      | .ok text => counted := (file, some (Counts.of text), none) :: counted
      | .error .isDirectory => counted := (file, some {}, some .isDirectory) :: counted
      | .error error => counted := (file, none, some error) :: counted
    let sum := counted.foldl (fun sum (_, n, _) => sum.add (n.getD {})) ({} : Counts)
    let there := counted.filter (·.2.1.isSome)
    let size := (there.filter fun (file, _) => isRegular file).foldl
      (fun sum (_, n, _) => sum + (n.getD {}).bytes) 0
    let first := counted.getLast?.bind (·.2.1)
    let width :=
      if total = "only" || first = none || (files.length = 1 && (chosen {}).length = 1) then 1
      else if there.all fun (file, _) => isRegular file then (Nat.toDigits 10 size).length
      else max 7 (Nat.toDigits 10 size).length
    let row (n : Counts) (name : Octets) : Octets :=
      [' '].intercalate ((chosen n).map fun k => padLeft width (Octets.ofInt (k : Nat))) ++
        (if name = [] then [] else ' ' :: name) ++ ['\n']
    for (file, n, error) in counted.reverse do
      if let some error := error then complainOf c file error
      if let some n := n then
        if total != "only" then print (row n (if listed = [] then [] else file))
    if total = "only" then print (row sum [])
    else if total = "always" || (total = "auto" && 1 < files.length) then
      print (row sum (Octets.say "total"))

end SvelteTransform.Sandbox.Tools
