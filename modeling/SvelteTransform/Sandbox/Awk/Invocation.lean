import SvelteTransform.Sandbox.Awk.Parser
import SvelteTransform.Sandbox.Awk.Run

/-! How a program comes to be run: options, the text of the program, and operands. -/
namespace SvelteTransform.Sandbox.Awk

structure Asked where
  separator : Option Octets := none
  assigned : List (Octets × Value) := []
  files : List Octets := []
  operands : List Octets := []

inductive Told where
  | refusal (text : Octets)
  | usage
  | version

namespace Asked

def option (a : Asked) (letter : Char) (value : Octets) : Except Told Asked :=
  match letter with
  | 'F' => .ok { a with separator := some (Lexeme.unescape value) }
  | 'f' => .ok { a with files := a.files ++ [value] }
  | 'W' =>
    if ['v'].isPrefixOf value then .error .version
    else if ['u'].isPrefixOf value || ['h'].isPrefixOf value then .error .usage
    else .ok a
  | _ =>
    match assignment? value with
    | some pair => .ok { a with assigned := a.assigned ++ [pair] }
    | none => .error (.refusal (Octets.say "improper assignment: -v " ++ value))

def ofArguments : (fuel : Nat) → Asked → List Octets → Except Told Asked
  | 0, a, _ | _, a, [] => .ok a
  | fuel + 1, a, argument :: rest =>
    match argument with
    | ['-', '-'] => .ok { a with operands := rest }
    | '-' :: '-' :: word =>
      if word = "version".toList then .error .version
      else if word = "help".toList || word = "usage".toList then .error .usage
      else .error (.refusal (Octets.say "not an option: " ++ argument))
    | '-' :: letter :: value =>
      if !(['F', 'f', 'v', 'W'].contains letter) then
        .error (.refusal (Octets.say "not an option: " ++ argument))
      else if value != [] then do ofArguments fuel (← a.option letter value) rest
      else match rest with
        | value :: rest => do ofArguments fuel (← a.option letter value) rest
        | [] => .error (.refusal (Octets.say "option -" ++ letter :: Octets.say " lacks argument"))
    | _ => .ok { a with operands := argument :: rest }

end Asked

def source (m : Machine) (a : Asked) : Except Told (Octets × List Octets) :=
  match a.files with
  | [] =>
    match a.operands with
    | text :: operands => .ok (text, operands)
    | [] => .error .usage
  | files => do
    let read (name : Octets) : Except Told Octets :=
      let content := if name = ['-'] then contentOf m "/dev/stdin".toList else contentOf m name
      content.mapError fun error =>
        .refusal (Octets.say "cannot open \"" ++ name ++ Octets.say s!"\" ({error.reason})")
    let texts ← files.mapM read
    return (['\n'].intercalate texts, a.operands)

def located (a : Asked) (complaint : Octets) : Octets :=
  match a.files with
  | [file] => file ++ Octets.say ": " ++ complaint
  | _ => complaint

def ready (m : Machine) (a : Asked) (program : Program) (operands : List Octets) : Machine :=
  let number (n : Nat) : Value := .ofNat n
  let text (t : String) : Value := .text t.toList
  let standard := [
    ("NR", number 0), ("FNR", number 0), ("FS", text " "), ("OFS", text " "), ("RS", text "\n"),
    ("ORS", text "\n"), ("SUBSEP", text "\x1c"), ("CONVFMT", text "%.6g"),
    ("OFMT", text "%.6g"), ("ARGC", number (operands.length + 1))]
  let arguments := m.process.arguments.headD [] :: operands
  let argv := (arguments.zipIdx).foldl (fun t (value, n) =>
    t.insert (.number n) (.ofInput value)) ({} : Table)
  let environ := m.process.environment.foldl (fun t (name, value) =>
    t.insert (.text name) (.ofInput value)) ({} : Table)
  let given := a.assigned ++ (a.separator.map fun t => ("FS".toList, Value.text t)).toList
  let tables := program.arrays.zipIdx.map fun (name, id) =>
    (id, if name = "ARGV".toList then argv else if name = "ENVIRON".toList then environ else {})
  { m with
    program, tables
    unusedTable := program.arrays.length
    cells := given.reverse ++ standard.map fun (name, v) => (name.toList, v)
    outlets := ((m.process.descriptors.lookup 1).map fun id =>
      { name := "/dev/stdout".toList, file := some id }).toList }

def usage : String := "Usage: mawk [Options] [Program] [file ...]\n"
def version : String := "mawk 1.3.4 20240123\n"

def run (launch : Launch) (fuel : Nat) (p : Process) (w : World) :
    Option Worker.ExitStatus × World :=
  let m : Machine := { world := w, process := p, program := {} }
  let refused (text : Octets) : Option Worker.ExitStatus × World :=
    (some (.exited 2), (m.put 2 (m.name ++ Octets.say ": " ++ text ++ ['\n'])).world)
  let found : Except Told (Asked × Octets × List Octets) := do
    let a ← Asked.ofArguments p.arguments.length {} p.arguments.tail
    return (a, ← source m a)
  match found with
  | .error (.refusal text) => refused text
  | .error .usage => (some (.exited 0), (m.put 2 (Octets.say usage)).world)
  | .error .version => (some (.exited 0), (m.put 1 (Octets.say version)).world)
  | .ok (a, text, operands) =>
    match Program.ofText text with
    | .error complaints =>
      let lines := complaints.map fun text => m.name ++ Octets.say ": " ++ located a text ++ ['\n']
      (some (.exited 2), (m.put 2 lines.flatten).world)
    | .ok program =>
      let (ended, m) := (wholeProgram launch fuel program).run.run (ready m a program operands)
      match ended with
      | .error .spent => (none, (flushFiles.run.run m).2.world)
      | _ =>
        match (finish launch).run.run m with
        | (.error .spent, m) => (none, m.world)
        | (_, m) => (some (if m.isUnheard then .killed 13 else .exited m.status), m.world)

end SvelteTransform.Sandbox.Awk
