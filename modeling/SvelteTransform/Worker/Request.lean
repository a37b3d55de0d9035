import SvelteTransform.Path
import SvelteTransform.Worker.Failure

/-! A preprocessing request. It travels to the worker in the worker's environment, where every
value is text. -/
namespace SvelteTransform

abbrev Environment := String → Option String

def Environment.overlay (inherited : Environment) (vars : List (String × String)) : Environment :=
  fun name => (vars.lookup name).or (inherited name)

namespace Worker

structure Request where
  source : String
  filename : Path
  config : Path
  showLog : Bool
  deriving DecidableEq, Repr

namespace Request

def flagText (flag : Bool) : String := if flag then "true" else "false"

def toVariables (r : Request) : List (String × String) := [
  ("source", r.source),
  ("filename", r.filename.toString),
  ("svelteConfig", r.config.toString),
  ("showConsoleLog", flagText r.showLog)]

def required (env : Environment) (name : String) : Except Failure String :=
  match env name with
  | some value => .ok value
  | none => .error (.missingVariable name)

def ofEnvironment (env : Environment) : Except Failure Request := do
  let source ← required env "source"
  let filename ← required env "filename"
  let config ← required env "svelteConfig"
  return { source, filename := .ofString filename, config := .ofString config,
           showLog := env "showConsoleLog" = some "true" }

def same (r s : Request) : Bool :=
  r.source = s.source && r.filename.same s.filename && r.config.same s.config &&
  r.showLog = s.showLog

end Request
end Worker
end SvelteTransform
