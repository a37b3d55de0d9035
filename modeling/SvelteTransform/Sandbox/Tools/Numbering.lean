import SvelteTransform.Sandbox.Regex
import SvelteTransform.Sandbox.Tools.Listing
import SvelteTransform.Sandbox.Tools.Text

/-! Lines with numbers. A page has a head, a body and a foot, which lines of delimiters begin; each
has its own rule about which lines get a number. -/
namespace SvelteTransform.Sandbox.Tools.Numbering

inductive Style where
  | all
  | filled
  | none
  | matching (pattern : Regex)

def style? (text : Octets) : Option Style :=
  match text with
  | ['a'] => some .all
  | ['t'] => some .filled
  | ['n'] => some .none
  | 'p' :: pattern => (Regex.ofText? false pattern).map .matching
  | _ => Option.none

inductive Part where
  | head
  | body
  | foot
  deriving DecidableEq

inductive Alignment where
  | left
  | right
  | filled

structure Format where
  head : Style := .none
  body : Style := .filled
  foot : Style := .none
  delimiter : Octets := ['\\', ':']
  step : Int := 1
  joined : Nat := 1
  alignment : Alignment := .right
  restarts : Bool := true
  separator : Octets := ['\t']
  start : Int := 1
  width : Nat := 6

namespace Format

def style (f : Format) : Part → Style
  | .head => f.head
  | .body => f.body
  | .foot => f.foot

def part? (f : Format) (line : Octets) : Option Part :=
  if f.delimiter.length < 2 then none
  else if line = f.delimiter ++ f.delimiter ++ f.delimiter then some .head
  else if line = f.delimiter ++ f.delimiter then some .body
  else if line = f.delimiter then some .foot
  else none

def label (f : Format) (n : Int) : Octets :=
  let text := Octets.ofInt n
  (match f.alignment with
    | .left => padRight f.width text
    | .right => padLeft f.width text
    | .filled =>
      let (sign, digits) := if n < 0 then (['-'], text.tail) else ([], text)
      sign ++ List.replicate (f.width - text.length) '0' ++ digits) ++ f.separator

def gap (f : Format) : Octets := List.replicate (f.width + f.separator.length) ' '

end Format

structure State where
  number : Int
  part : Part := .body
  blanks : Nat := 0

def row (f : Format) (s : State) (line : Octets) : Octets × State :=
  match f.part? line with
  | some part => (['\n'], { s with part, number := if f.restarts then f.start else s.number })
  | none =>
    let counted (s : State) : Octets × State :=
      (f.label s.number ++ line ++ ['\n'], { s with number := s.number + f.step })
    let plain (s : State) : Octets × State := (f.gap ++ line ++ ['\n'], s)
    match f.style s.part with
    | .all =>
      if f.joined ≤ 1 then counted s
      else if line != [] || s.blanks + 1 = f.joined then counted { s with blanks := 0 }
      else plain { s with blanks := s.blanks + 1 }
    | .filled => if line != [] then counted s else plain s
    | .none => (f.gap ++ line ++ ['\n'], s)
    | .matching pattern =>
      if (pattern.search false false (line.length + 1) ⟨0, none, line, []⟩).isSome then counted s
      else plain s

abbrev Reading := Except (Octets × Bool)

def formatOf (given : Given) : Reading Format :=
  given.options.foldlM (fun (f : Format) (option : Char × Octets) =>
    let (letter, value) := option
    let wrong {α : Type} (what : String) (hint : Bool := false) : Reading α :=
      .error (Octets.say s!"invalid {what}: " ++ quoted value, hint)
    let style (what : String) : Reading Style :=
      match style? value with
      | some style => .ok style
      | none => wrong s!"{what} numbering style" true
    let positive (what : String) : Reading Nat :=
      match Octets.integer? value with
      | some n =>
        if 0 < n then .ok n.toNat
        else .error (Octets.say s!"invalid {what}: " ++ quoted value ++
          Octets.say ": Numerical result out of range", false)
      | none => wrong what
    match letter with
    | 'b' => do return { f with body := (← style "body") }
    | 'h' => do return { f with head := (← style "header") }
    | 'f' => do return { f with foot := (← style "footer") }
    | 'd' => .ok { f with delimiter := match value with | [c] => [c, ':'] | value => value }
    | 'i' => match Octets.integer? value with
      | some step => .ok { f with step }
      | none => wrong "line number increment"
    | 'v' => match Octets.integer? value with
      | some start => .ok { f with start }
      | none => wrong "starting line number"
    | 'l' => do return { f with joined := (← positive "line number of blank lines") }
    | 'w' => do return { f with width := (← positive "line number field width") }
    | 'n' => match value with
      | ['l', 'n'] => .ok { f with alignment := .left }
      | ['r', 'n'] => .ok { f with alignment := .right }
      | ['r', 'z'] => .ok { f with alignment := .filled }
      | _ => wrong "line numbering format" true
    | 's' => .ok { f with separator := value }
    | 'p' => .ok { f with restarts := false }
    | _ => .ok f) {}

end Numbering

def nl (c : Call) : Running Unit :=
  let options : Options := {
    flags := "p", valued := "bdfhilnsvw"
    long := [("body-numbering", 'b'), ("section-delimiter", 'd'), ("footer-numbering", 'f'),
      ("header-numbering", 'h'), ("line-increment", 'i'), ("join-blank-lines", 'l'),
      ("number-format", 'n'), ("no-renumber", 'p'), ("number-separator", 's'),
      ("starting-line-number", 'v'), ("number-width", 'w')] }
  withOptions c options fun given => do
    match Numbering.formatOf given with
    | .error (text, hint) => if hint then tryHelp c text else complain c text
    | .ok f =>
      let text ← readJoined c given.operands
      let rows := (Octets.lines text).foldl (fun (rows, s) line =>
        let (row, s) := Numbering.row f s (bodyAndEnd line).1
        (row :: rows, s)) (([] : List Octets), ({ number := f.start } : Numbering.State))
      print rows.1.reverse.flatten

end SvelteTransform.Sandbox.Tools
