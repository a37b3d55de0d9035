import SvelteTransform.Transform.Basic

/-! The two ways through a transformation. Both check that they may be used at all before anything
is done, preprocess if asked to, and end in the same compilation. -/
namespace SvelteTransform.Transformer
open Worker

variable {Definition : Type}

def isLegacy (t : Transformer Definition) (o : Options) : Bool := o.isLegacy t.compiler.version

def expectMode (t : Transformer Definition) (entry : Entry) : Run Unit :=
  if t.mode = entry.mode then pure () else .fail (.modeMismatch entry t.mode)

def announcement : Entry → String
  | .sync => "Running svelte-jester transformer sync in mode cjs."
  | .async => "Running svelte-jester transformer async in mode esm."

def announce (o : Options) (entry : Entry) : Run Unit :=
  if o.debug then .report .debug (announcement entry) else pure ()

def resolve (t : Transformer Definition) (file : Path) (o : Options) : Run (Option Path) :=
  match o.preprocess with
  | .disabled => pure none
  | .path config => pure (some config)
  | .discover =>
    .ask (.search o.rootMode file) .config
      ((Config.discover t.isFile t.root o.rootMode file).map some)

def callCompiler (t : Transformer Definition) (file : Path) (source : String)
    (options : Compile.Options) : Event × Except Compile.Error Compile.Output :=
  match Compile.Target.ofPath file with
  | .component => (.component source options, t.compiler.component source options)
  | .module => (.module source options.forModule, t.compiler.module source options.forModule)

def compile (t : Transformer Definition) (file : Path) (o : Options) (source : String)
    (sourcemap : Option Json) : Run Compile.Result :=
  let options :=
    Compile.Options.assemble file (t.isLegacy o) t.mode.format sourcemap o.compilerOptions
  let (event, answer) := t.callCompiler file source options
  match answer with
  | .error error => ⟨[event, .report ⟨.error, error.report⟩], .error (.compile error)⟩
  | .ok output =>
    let result := Compile.Result.ofOutput output t.mode.format
    ⟨event :: if o.debug then [.report ⟨.log, result.code⟩] else [], .ok result⟩

def compileResponse (t : Transformer Definition) (file : Path) (o : Options) (r : Response) :
    Run Compile.Result :=
  t.compile file o r.code r.map

/-- For hosts that cannot wait: preprocessing runs in another process. Only Svelte 3 can be used
so, which is checked before the mode. -/
def process (t : Transformer Definition) (source : String) (file : Path) (o : Options) :
    Run Compile.Result := do
  unless t.isLegacy o do Run.fail .legacyOnly
  t.expectMode .sync
  announce o .sync
  match ← t.resolve file o with
  | none => t.compile file o source none
  | some config =>
    let request : Request := ⟨source, file, config, o.showLog⟩
    let response ← .ask (.work request o.outputLimit) .worker (t.worker request o.outputLimit)
    t.compileResponse file o response

def processAsync [Inhabited Definition] (t : Transformer Definition) (source : String)
    (file : Path) (o : Options) : Run Compile.Result := do
  t.expectMode .async
  announce o .async
  match ← t.resolve file o with
  | none => t.compile file o source none
  | some config =>
    let loaded ← .ask (.load config) .config (t.load config)
    let response ← .ask (.preprocess source file) .preprocess
      (t.preprocess source file loaded.definition)
    t.compileResponse file o response

end SvelteTransform.Transformer
