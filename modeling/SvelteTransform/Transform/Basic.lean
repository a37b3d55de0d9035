import SvelteTransform.Compile.Basic
import SvelteTransform.Config.Discovery
import SvelteTransform.Console
import SvelteTransform.Options.Basic
import SvelteTransform.Worker.Request
import SvelteTransform.Worker.Response

/-! What a transformation works with, what it does to its surroundings, and how it can fail. A
`Run` keeps what was done in order, so laws can speak of calls that were or were not made. -/
namespace SvelteTransform
open Worker

inductive Mode where
  | commonJs
  | esm
  deriving DecidableEq, Repr

namespace Mode

def format : Mode → Compile.ModuleFormat
  | .commonJs => .cjs
  | .esm => .esm

def label : Mode → String
  | .commonJs => "CJS"
  | .esm => "ESM"

end Mode

inductive Entry where
  | sync
  | async
  deriving DecidableEq, Repr

def Entry.name : Entry → String
  | .sync => "sync"
  | .async => "async"

def Entry.mode : Entry → Mode
  | .sync => .commonJs
  | .async => .esm

inductive TransformError where
  | modeMismatch (entry : Entry) (mode : Mode)
  | legacyOnly
  | config (error : ConfigError)
  | worker (failure : Failure)
  | preprocess (message : String)
  | compile (error : Compile.Error)
  deriving DecidableEq, Repr

def TransformError.message : TransformError → String
  | .modeMismatch entry mode =>
    s!"running svelte-jester {entry.name} in unsupported {mode.label} mode"
  | .legacyOnly =>
    "svelte-jester is being called in CommonJS mode; Svelte 4+ requires ESM mode"
  | .config error => error.message
  | .worker failure => failure.message
  | .preprocess message => s!"preprocess failed: {message}"
  | .compile error => error.message

inductive Event where
  | search (mode : RootMode) (filename : Path)
  | work (request : Request) (limit : Nat)
  | load (config : Path)
  | preprocess (source : String) (filename : Path)
  | component (source : String) (options : Compile.Options)
  | module (source : String) (options : Compile.ModuleOptions)
  | report (line : Line)
  deriving DecidableEq

structure Run (α : Type) where
  events : List Event
  result : Except TransformError α

namespace Run
variable {α β : Type}

def andThen (r : Run α) (next : α → Run β) : Run β :=
  match r.result with
  | .ok a => ⟨r.events ++ (next a).events, (next a).result⟩
  | .error error => ⟨r.events, .error error⟩

instance : Monad Run where
  pure a := ⟨[], .ok a⟩
  bind := andThen

def fail (error : TransformError) : Run α := ⟨[], .error error⟩

def ask {ε : Type} (event : Event) (failure : ε → TransformError) (answer : Except ε α) : Run α :=
  ⟨[event], answer.mapError failure⟩

def report (channel : Channel) (message : String) : Run Unit :=
  ⟨[.report ⟨channel, message⟩], .ok ()⟩

def lines (r : Run α) : List Line :=
  r.events.filterMap fun
    | .report line => some line
    | _ => none

end Run

structure Transformer (Definition : Type) where
  mode : Mode
  compiler : Compile.Compiler
  root : Path
  isFile : Path → Bool
  worker : Request → Nat → Except Failure Response
  load : ConfigLoader Definition
  preprocess : String → Path → Definition → Except String Response

def noLoader : ConfigLoader Unit :=
  fun path => .error (.load path "no config loader configured")

def noPreprocess : String → Path → Unit → Except String Response :=
  fun _ _ _ => .error "no async preprocessor configured"

end SvelteTransform
