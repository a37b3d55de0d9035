import SvelteTransform.Sandbox.Basic

/-! Transformations on a sandbox, with a compiler whose answer is given. The sandbox is a machine to
try the program on: nothing outside `Sandbox` depends on it, and no law speaks of it. -/
namespace SvelteTransform.Sandbox

structure FixedCompiler where
  version : Option String
  failure : Option Compile.Error
  code : Option String
  map : Option Json

namespace FixedCompiler

def plainMap : Json := .object [("mappings", .string "AAAA"), Compile.mapVersion]

def answer (c : FixedCompiler) (target : Compile.Target) (source : String) :
    Except Compile.Error Compile.Output :=
  match c.failure with
  | some error => .error error
  | none => .ok {
      code := c.code.getD s!"/* {target.name} */\n{source}\n"
      map := c.map.getD plainMap }

def toCompiler (c : FixedCompiler) : Compile.Compiler where
  version := c.version
  component source _ := c.answer .component source
  module source _ := c.answer .module source

end FixedCompiler

def transformer (s : Sandbox) (mode : Mode) (compiler : FixedCompiler) (root : Path)
    (runner : Worker.Runner) : Transformer Replacements where
  mode
  compiler := compiler.toCompiler
  root
  isFile := s.isFile
  worker request limit := (run runner request limit s).1
  load := Replacements.loader s.readText
  preprocess := Replacements.preprocess

def settle (runner : Worker.Runner) (events : List Event) (s : Sandbox) : Sandbox :=
  events.foldl (fun s event => match event with
    | .work request limit => (run runner request limit s).2
    | _ => s) s

structure Job where
  mode : Mode
  compiler : FixedCompiler
  source : String
  file : Path
  options : Options
  root : Option Path

def process (job : Job) (runner : Worker.Runner) :
    StateM Sandbox (Except ConfigError (Run Compile.Result)) := do
  let s ← get
  match s.projectRoot job.root with
  | .error error => return .error error
  | .ok root =>
    let t := s.transformer job.mode job.compiler root runner
    let run := t.process job.source job.file job.options
    modify (settle runner run.events)
    return .ok run

def processAsync (s : Sandbox) (job : Job) (preprocesses : Bool) :
    Except ConfigError (Run Compile.Result) := do
  let root ← s.projectRoot job.root
  let t := s.transformer job.mode job.compiler root (.node none)
  if preprocesses then return t.processAsync job.source job.file job.options
  let bare : Transformer Unit := { t with load := noLoader, preprocess := noPreprocess }
  return bare.processAsync job.source job.file job.options

end SvelteTransform.Sandbox
