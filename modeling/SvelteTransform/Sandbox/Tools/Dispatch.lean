import SvelteTransform.Replacement
import SvelteTransform.Sandbox.Tools.Basic
import SvelteTransform.Worker.Answer

/-! The worker among the programs, and how what a program answers comes to pass. -/
namespace SvelteTransform.Sandbox.Tools

def preprocessor : Worker.Preprocessor Replacements where
  logged _ filename _ := [s!"preprocessing {filename}\n"]
  result := Replacements.preprocess

def environmentOf (variables_ : List (Octets × Octets)) : Environment := fun name => do
  let value ← variables_.lookup (Octets.ofText name.toList)
  return String.ofList (← Text.ofUtf8? (Octets.toBytes value))

def worker (out : Worker.Writer) (c : Call) : Running Unit := do
  if c.arguments[1]? = some "--worker".toList then
    let readText (path : Path) : Option String :=
      match c.files.read c.here path with
      | .ok bytes => (Text.ofUtf8? bytes).map String.ofList
      | .error _ => none
    let (result, out) := Worker.answerFrom (environmentOf c.environment)
      (Replacements.loader readText) preprocessor out
    print (Octets.ofBytes out.written)
    if let .error error := result then
      tell (Octets.say s!"Error: {error.message}\n")
      fails 1

def writerOf (p : Process) (w : World) : Worker.Writer :=
  match (p.descriptors.lookup 1).bind (w.opened.lookup ·) with
  | some { target := .device .full, .. } => .limited 0 SystemError.noSpace.message
  | _ => .unlimited

def settle (p : Process) (r : Reply) (complains : Bool) (w : World) : Worker.ExitStatus × World :=
  let put (w : World) (descriptor : Nat) (text : Octets) : Except SystemError World :=
    match p.descriptors.lookup descriptor with
    | some id => w.write id text
    | none => if text = [] then .ok w else .error .badDescriptor
  let write : Worker.ExitStatus × World → Nat × Octets → Worker.ExitStatus × World :=
    fun (status, w) (descriptor, text) =>
      if status = .killed 13 then (status, w)
      else match put w descriptor text with
        | .ok w => (status, w)
        | .error error =>
          if error = .brokenPipe && !p.ignores.contains 13 then (.killed 13, w)
          else if descriptor != 1 || !complains then (status, w)
          else
            let name := p.arguments.headD []
            let complaint := name ++ Octets.say s!": write error: {error.reason}\n"
            (.exited 1, (put w 2 complaint).toOption.getD w)
  let w := { w with files := r.files, cut := w.cut || r.cut }
  let w := match r.taken, p.descriptors.lookup 0 with
    | .nothing, _ | _, none => w
    | .bytes count, some id =>
      if w.isSeekable id then w.pass id count
      else w.passAll id count
    | .block count, some id => w.passAll id count
    | .all, some id => w.pass id (((w.unread id).toOption.getD []).length)
  let (status, w) := r.written.reverse.foldl write (.exited r.status, w)
  let w := { w with signals := w.signals ++ r.sent }
  (status, w.sleepUntil (p.descriptors.map (·.2)) (w.clock + r.pause))

def performFrom (p : Process) (complains : Bool) (program : Call → Running Unit) :
    (fuel : Nat) → World → Worker.ExitStatus × World
  | 0, w => (.exited 0, w)
  | fuel + 1, w =>
  let w := (w.masked p.mask).timed
  if w.stopped.isSome then (.exited 0, w) else
  let call : Call := {
    files := w.files
    here := p.here
    arguments := p.arguments
    environment := p.environment
    input := fun _ => match p.descriptors.lookup 0 with
      | some id => w.unread id
      | none => .error .badDescriptor
    held := fun n => match p.descriptors.lookup n with
      | none => .error .notFound
      | some id => match w.opened.lookup id with
        | some { target := .file inode, .. } =>
          -- A file is opened anew.
          ((w.files.node? inode).elim (.error .notFound) Files.content).map Octets.ofBytes
        | _ => w.unread id
    inputIsEndless := (p.descriptors.lookup 0).any w.isEndless
    output := (p.descriptors.lookup 1).bind fun id => match w.opened.lookup id with
      | some { target := .file inode, .. } => some inode
      | _ => none
    inputIsFile := (p.descriptors.lookup 0).any w.isSeekable
    patience := w.patience }
  let (_, reply) := (program call).run { files := w.files }
  let later := if reply.taken = .all then
      w.awaitMore? (p.descriptors.map (·.2)) (p.descriptors.lookup 0)
    else none
  match later with
  | some w => performFrom p complains program fuel w
  | none => settle p reply complains w

def perform (p : Process) (complains : Bool) (program : Call → Running Unit) (w : World) :
    Worker.ExitStatus × World :=
  performFrom p complains program (w.wakings + 1) w

end SvelteTransform.Sandbox.Tools
