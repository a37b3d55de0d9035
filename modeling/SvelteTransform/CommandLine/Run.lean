import SvelteTransform.CommandLine.Parse
import SvelteTransform.Log.Filter
import SvelteTransform.Worker.Runner

/-! What the commands do. Standard output carries the answer and nothing else; whatever goes wrong
is told on standard error and by the exit status. -/
namespace SvelteTransform.CommandLine

inductive Failure where
  | unreadable (file : Path)
  | config (error : ConfigError)
  | disabled
  | worker (failure : Worker.Failure)
  deriving DecidableEq, Repr

def Failure.message : Failure → String
  | .unreadable file => s!"failed to read {file}"
  | .config error => error.message
  | .disabled => "preprocessing is disabled"
  | .worker failure => failure.message

structure Surroundings (m : Type → Type) where
  machine : Worker.Machine m
  currentDirectory : m (Except SystemError Path)
  isFile : List Path → m (Path → Bool)
  readText : Path → m (Option String)
  logging : m (Option String)
  tell : String → m Unit

def configUnder (isFile : Path → Bool) (root file : Path) (mode : RootMode)
    (setting : PreprocessSetting) : Except Failure Path :=
  match Config.resolve isFile root mode file setting with
  | .error error => .error (.config error)
  | .ok none => .error .disabled
  | .ok (some config) => .ok config

def configOf (isFile : Path → Bool) (root : Path) (a : ConfigArguments) : Except Failure Path :=
  configUnder isFile root a.file a.rootMode a.preprocess

variable {m : Type → Type} [Monad m]

def rootOf (s : Surroundings m) (projectRoot : Option Path) : m (Except Failure Path) := do
  match projectRoot with
  | some root => return .ok root
  | none =>
    match ← s.currentDirectory with
    | .ok directory => return .ok directory
    | .error error => return .error (.config (.projectRoot error.message))

def resolveUnder (s : Surroundings m) (projectRoot : Option Path) (file : Path) (mode : RootMode)
    (setting : PreprocessSetting) : m (Except Failure Path) := do
  match ← rootOf s projectRoot with
  | .error failure => return .error failure
  | .ok root =>
    let isFile ← s.isFile (Config.candidates root mode file)
    let found := configUnder isFile root file mode setting
    if let (.ok config, .discover) := (found, setting) then
      s.machine.report (Config.foundRecord config)
    return found

def resolveConfig (s : Surroundings m) (a : ConfigArguments) : m (Except Failure Path) :=
  resolveUnder s a.projectRoot a.file a.rootMode a.preprocess

def preprocessFile (s : Surroundings m) (a : PreprocessArguments) :
    m (Except Failure Worker.Response) := do
  let some source ← s.readText a.config.file | return .error (.unreadable a.config.file)
  match ← resolveConfig s a.config with
  | .error failure => return .error failure
  | .ok config =>
    let request : Worker.Request := ⟨source, a.config.file, config, a.showLog⟩
    return (← (Worker.Runner.node a.node).run s.machine request a.maxBuffer).mapError .worker

def execute (s : Surroundings m) : Command → m (Except Failure String)
  | .resolveConfig a => return (← resolveConfig s a).map Path.toString
  | .preprocess a => return (← preprocessFile s a).map Worker.Response.toLine

structure Outcome where
  exit : Nat
  stdout : String
  complaint : Option String
  deriving DecidableEq, Repr

def Outcome.ofUsage (error : UsageError) : Outcome :=
  match error with
  | .help | .version => ⟨0, error.message ++ "\n", none⟩
  | _ => ⟨error.exitCode, "", some error.message⟩

def Outcome.ofResult : Except Failure String → Outcome
  | .ok line => ⟨0, line ++ "\n", none⟩
  | .error failure => ⟨1, "", some failure.message⟩

/-- The records that are wanted go to standard error. What is wrong with the specification is
told there before anything else. -/
def withLogging (s : Surroundings m) : m (Surroundings m) := do
  let (filter, complaints) := Log.Filter.ofText ((← s.logging).getD "")
  complaints.forM s.tell
  let report (record : Log.Record) : m Unit := do
    if filter.wants record then s.tell record.line
  return { s with machine := { s.machine with report } }

def run (s : Surroundings m) (arguments : List String) : m Outcome := do
  let s ← withLogging s
  match parse arguments with
  | .error error => return .ofUsage error
  | .ok command => return .ofResult (← execute s command)

end SvelteTransform.CommandLine
