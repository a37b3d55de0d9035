import SvelteTransform.Worker.Capture
import SvelteTransform.Worker.Command
import SvelteTransform.Worker.Install

/-! Running one request in a fresh process. No worker is kept between requests and nothing is
tried twice. -/
namespace SvelteTransform.Worker

inductive Runner where
  | node (path : Option Path)
  | program (command : Command)
  deriving DecidableEq, Repr

structure Machine (m : Type → Type) where
  findNode : m (Option Path)
  cacheDirectory : m (Option Path)
  makeDirectories : Path → m (Except SystemError Unit)
  files : Install.Files m
  report : Log.Record → m Unit
  /-- Runs a command to its end with these variables added to the environment. Once it has written
  more than the limit, nobody reads on, and it is killed. -/
  finish : Command → List (String × String) → (limit : Nat) → m (Except SystemError Finished)

variable {m : Type → Type} [Monad m]

def ensureScript (machine : Machine m) : m (Except InstallError Path) := do
  let some directory ← machine.cacheDirectory | return .error .noCacheDirectory
  match ← machine.makeDirectories directory with
  | .error error => return .error (.makeDirectory error)
  | .ok () =>
    match ← Install.install machine.report machine.files directory with
    | .error error => return .error error
    | .ok () => return .ok (directory.join Script.fileName)

def startRecord (command : Command) (request : Request) : Log.Record :=
  ⟨.debug, "preprocess_runner::runner",
    s!"spawning preprocess worker \x60{command.program}\x60 for {request.filename}"⟩

def outputRecord (output : String) : Log.Record :=
  ⟨.trace, "preprocess_runner::runner",
    s!"preprocess worker wrote {output.utf8ByteSize} bytes"⟩

namespace Runner

def commandFor (machine : Machine m) : Runner → m (Except InstallError Command)
  | .program command => return .ok command
  | .node path => do
    let found ← match path with
      | some path => pure (some path)
      | none => machine.findNode
    let some binary := found | return .error .noNode
    return (← ensureScript machine).map (Command.node binary)

def run (machine : Machine m) (runner : Runner) (request : Request) (limit : Nat) :
    m (Except Failure Response) := do
  match ← runner.commandFor machine with
  | .error error => return .error (.install error)
  | .ok command =>
    machine.report (startRecord command request)
    match ← machine.finish command request.toVariables limit with
    | .error error => return .error (.spawn error)
    | .ok worker =>
      if let some output := worker.output? limit then machine.report (outputRecord output)
      return outcome command.program limit worker

end Runner
end SvelteTransform.Worker
