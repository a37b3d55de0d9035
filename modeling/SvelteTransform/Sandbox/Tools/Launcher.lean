import SvelteTransform.Sandbox.Signal
import SvelteTransform.Sandbox.Tools.Splitting

/-! What programs that start other programs are asked to start, and with what. -/
namespace SvelteTransform.Sandbox.Tools.Launcher

inductive Plan where
  | start (environment : List (Octets × Octets)) (arguments : List Octets)
  | show_ (text : Octets)
  | refuse (text : Octets) (status : Nat)

def tryHelp (c : Call) : Octets :=
  Octets.say "Try '" ++ c.name ++ Octets.say " --help' for more information.\n"

def refusal (c : Call) (text : Octets) (status : Nat) : Plan :=
  .refuse (c.name ++ Octets.say ": " ++ text ++ '\n' :: tryHelp c) status

def assignment? (text : Octets) : Option (Octets × Octets) :=
  let name := text.takeWhile (· != '=')
  if name.length < text.length then some (name, text.drop (name.length + 1)) else none

def assignments : List Octets → List (Octets × Octets) × List Octets
  | [] => ([], [])
  | text :: rest =>
    match assignment? text with
    | some pair =>
      let (more, rest) := assignments rest
      (pair :: more, rest)
    | none => ([], text :: rest)

def put (environment : List (Octets × Octets)) (pair : Octets × Octets) : List (Octets × Octets) :=
  if (environment.lookup pair.1).isSome then
    environment.map fun old => if old.1 = pair.1 then pair else old
  else environment ++ [pair]

def shebangHint (c : Call) : Octets :=
  c.name ++ Octets.say ": use -[v]S to pass options in shebang lines\n"

def env (c : Call) : Plan :=
  let options : Options := {
    flags := "i0", valued := "uCS", mixed := false
    long := [("ignore-environment", 'i'), ("unset", 'u'), ("null", '0')] }
  match Splitting.spread (fun name => c.environment.lookup name) 20 c.operands with
  | .error text => .refuse (c.name ++ Octets.say ": " ++ text ++ ['\n']) 125
  | .ok arguments =>
  match options.parse arguments.length arguments with
  | .error text =>
    let isBlankLetter := "invalid option -- ' '".toList.isPrefixOf text
    if isBlankLetter then
      .refuse (c.name ++ Octets.say ": " ++ text ++ '\n' :: shebangHint c ++ tryHelp c) 125
    else refusal c text 125
  | .ok given =>
    let (bare, operands) := match given.operands with
      | ['-'] :: rest => (true, rest)
      | operands => (false, operands)
    let (assigned, command) := assignments operands
    let gone := (given.options.filter (·.1 = 'u')).map (·.2)
    let inherited := if bare || given.has 'i' then []
      else c.environment.filter fun (name, _) => !gone.contains name
    let environment := assigned.foldl put inherited
    if command = [] then
      let lineEnd := if given.has '0' then '\x00' else '\n'
      .show_ (environment.flatMap fun (name, value) => name ++ '=' :: value ++ [lineEnd])
    else .start environment command

def plain (c : Call) (flags valued : String) (status : Nat) : Plan :=
  match ({ flags, valued, mixed := false } : Options).parse c.operands.length c.operands with
  | .error text => refusal c text status
  | .ok given =>
    if given.operands = [] then refusal c (Octets.say "missing operand") status
    else .start c.environment given.operands

def duration? (text : Octets) : Option Nat :=
  let whole := text.takeWhile Octets.isDigit
  let rest := text.drop whole.length
  let part := match rest with
    | '.' :: rest => rest.takeWhile Octets.isDigit
    | _ => []
  let rest := if rest.head? = some '.' then rest.drop (part.length + 1) else rest
  if whole ++ part = [] then none
  else
    let thousandths := Octets.natural whole * 1000 +
      Octets.natural ((part ++ ['0', '0', '0']).take 3)
    match rest with
    | [] | ['s'] => some thousandths
    | ['m'] => some (thousandths * 60)
    | ['h'] => some (thousandths * 3600)
    | ['d'] => some (thousandths * 86400)
    | _ => none

structure Limit where
  duration : Nat
  signal : Nat
  keepsStatus : Bool

def Limit.status (l : Limit) : Worker.ExitStatus :=
  if l.signal = 9 then .killed 9 else .exited (if l.keepsStatus then 128 + l.signal else 124)

def signal? (text : Octets) : Option Nat :=
  if Octets.isNumber text then some (Octets.natural text)
  else
    let name := text.map Char.toUpper
    Signal.number? (if "SIG".toList.isPrefixOf name then name.drop 3 else name)

def timeout (c : Call) : Plan × Limit :=
  let options : Options := {
    flags := "fpv", valued := "sk", mixed := false
    long := [("signal", 's'), ("kill-after", 'k'), ("preserve-status", 'p'), ("foreground", 'f')] }
  let nothing : Limit := ⟨0, 15, false⟩
  match options.parse c.operands.length c.operands with
  | .error text => (refusal c text 125, nothing)
  | .ok given =>
    match given.operands with
    | duration :: command =>
      match duration? duration with
      | some n =>
        if command = [] then (refusal c (Octets.say "missing operand") 125, nothing)
        else (.start c.environment command,
          ⟨n, ((given.value? 's').bind signal?).getD 15, given.has 'p'⟩)
      | none => (refusal c (Octets.say "invalid time interval " ++ quoted duration) 125, nothing)
    | [] => (refusal c (Octets.say "missing operand") 125, nothing)

structure Batches where
  command : List Octets
  items : List Octets
  placeholder : Option Octets := none
  most : Option Nat := none
  runsOnNothing : Bool := true

def words : (fuel : Nat) → (word : Option Octets) → Octets → List Octets
  | 0, word, _ | _, word, [] => (word.map List.reverse).toList
  | fuel + 1, word, c :: rest =>
    if Octets.isBlank c || c = '\n' then (word.map List.reverse).toList ++ words fuel none rest
    else if c = '\'' || c = '"' then
      let inside := rest.takeWhile (· != c)
      words fuel (some (inside.reverse ++ word.getD [])) (rest.drop (inside.length + 1))
    else if c = '\\' then words fuel (some ((rest.take 1) ++ word.getD [])) rest.tail
    else words fuel (some (c :: word.getD [])) rest

def separated (separator : Char) (text : Octets) : List Octets :=
  let parts := Path.cutAt separator text
  if parts.getLast? = some [] then parts.dropLast else parts

def xargs (c : Call) (input : Octets) : Except Plan Batches :=
  let options : Options := {
    flags := "0rtx", valued := "nILdPs", mixed := false
    long := [("null", '0'), ("no-run-if-empty", 'r'), ("max-args", 'n'), ("delimiter", 'd'),
      ("replace", 'I'), ("max-procs", 'P')] }
  match options.parse c.operands.length c.operands with
  | .error text => .error (refusal c text 1)
  | .ok given =>
    let placeholder := given.value? 'I'
    let delimiter := (given.value? 'd').map fun text =>
      if text = ['\\', 'n'] then '\n' else if text = ['\\', '0'] then '\x00'
      else if text = ['\\', 't'] then '\t' else text.headD '\n'
    let items := if given.has '0' then separated '\x00' input
      else match delimiter with
        | some d => separated d input
        | none =>
          if placeholder.isSome then
            ((separated '\n' input).map (·.dropWhile Octets.isBlank)).filter (· != [])
          else words (input.length + 1) none input
    .ok {
      command := if given.operands = [] then ["echo".toList] else given.operands
      items, placeholder
      most := (given.value? 'n').map Octets.natural
      runsOnNothing := !given.has 'r' }

def replaced (old new : Octets) : (fuel : Nat) → Octets → Octets
  | 0, rest => rest
  | _, [] => []
  | fuel + 1, c :: rest =>
    if old != [] && old.isPrefixOf (c :: rest) then
      new ++ replaced old new fuel ((c :: rest).drop old.length)
    else c :: replaced old new fuel rest

def chunks (size : Nat) : (fuel : Nat) → List Octets → List (List Octets)
  | 0, _ | _, [] => []
  | fuel + 1, items => items.take size :: chunks size fuel (items.drop size)

def Batches.commands (b : Batches) : List (List Octets) :=
  match b.placeholder with
  | some p => b.items.map fun item =>
      b.command.map fun part => replaced p item (part.length + 1) part
  | none =>
    if b.items = [] then if b.runsOnNothing then [b.command] else []
    else (chunks (max 1 (b.most.getD 5000)) b.items.length b.items).map (b.command ++ ·)

end SvelteTransform.Sandbox.Tools.Launcher
