import SvelteTransform.Proofs.Compile.Options
import SvelteTransform.Proofs.Transform.Effects

/-! Both ways through a transformation give the same to the compiler and make the same of its
answer, up to the format of the generated code. -/
namespace SvelteTransform.Transformer
open Worker

inductive SameAnswer :
    (sync async : Except TransformError Compile.Result) → Prop where
  | failed (error : Compile.Error) :
      SameAnswer (.error (.compile error)) (.error (.compile error))
  | done (r : Compile.Result) : SameAnswer (.ok ⟨r.code ++ Compile.esInterop, r.map⟩) (.ok r)

structure SameButFormat (overrides : Fields Json) (sync async : Compile.Options) : Prop where
  others : ∀ key, key ≠ "format" → sync.get? key = async.get? key
  free : "format" ∉ overrides.keys →
    sync.get? "format" = some (.string "cjs") ∧ async.get? "format" = some (.string "esm")
  overridden : "format" ∈ overrides.keys → sync = async

structure Agreement (file : Path) (o : Options) (sync async : Run Compile.Result) : Prop where
  config : ∀ error,
    sync.result = .error (.config error) ↔ async.result = .error (.config error)
  component : ¬ NamesModule file → (∀ error, sync.result ≠ .error (.config error)) →
    ∃ code forSync forAsync, sync.calls .compile = [.component code forSync] ∧
      async.calls .compile = [.component code forAsync] ∧
      SameButFormat o.compilerOptions forSync forAsync
  module : NamesModule file → (∀ error, sync.result ≠ .error (.config error)) →
    ∃ code options, sync.calls .compile = [.module code options] ∧
      async.calls .compile = [.module code options]
  answers : ∀ call, sync.calls .compile = [call] → async.calls .compile = [call] →
    SameAnswer sync.result async.result

/-- Two transformers that differ in how they are called and in how they preprocess; but what either
preprocessing delivers is the same. -/
structure Paired {D E : Type} [Inhabited E] (s : Transformer D) (a : Transformer E)
    (source : String) (file : Path) (o : Options) : Prop where
  commonJs : s.mode = .commonJs
  esm : a.mode = .esm
  compiler : s.compiler = a.compiler
  root : s.root = a.root
  files : s.isFile = a.isFile
  legacy : s.TakesSvelte3 o
  delivered : ∀ config, s.resolution file o = .ok (some config) → ∃ response loaded,
    s.worker ⟨source, file, config, o.showLog⟩ o.outputLimit = .ok response ∧
    a.load config = .ok loaded ∧ a.preprocess source file loaded.definition = .ok response

section
variable {D : Type} {t : Transformer D} {source : String} {file : Path} {o : Options}
  {entry : Entry} {p : Response} {r : Run Compile.Result}

structure Ends (t : Transformer D) (file : Path) (o : Options) (p : Response)
    (r : Run Compile.Result) : Prop where
  calls : r.calls .compile = [t.compilation file o p]
  result : r.result = t.outcome file o p

theorem Ends.notConfig (ends : Ends t file o p r) (error : ConfigError) :
    r.result ≠ .error (.config error) := by
  rw [ends.result, outcome]
  intro failed
  cases answer : (t.callCompiler file p.code (t.options file o p.map)).2 <;>
    rw [answer] at failed <;> cases failed

theorem preparedEnds {preprocessed : Path → Run Response} {found : Option Path}
    (resolved : t.resolution file o = .ok found) {asked : List Event}
    (prepared : found.elim (unprocessed source) preprocessed = ⟨asked, .ok p⟩)
    (staged : Staged entry asked []) :
    Ends t file o p (t.behindGates source file o entry preprocessed) := by
  rw [preparedRun resolved prepared]
  exact ⟨(staged.andCompiled (t.compilationKind file o p)).compileCalls file o _, rfl⟩

end

section
variable {D E : Type} [Inhabited E] {s : Transformer D} {a : Transformer E} {source : String}
  {file : Path} {o : Options} (paired : Paired s a source file o)
include paired

theorem sameResolution : a.resolution file o = s.resolution file o := by
  rw [resolution, resolution, paired.files, paired.root]

theorem bothUnresolved {error : ConfigError} (unresolved : s.resolution file o = .error error) :
    s.process source file o = between o .sync (searches file o) (.error (.config error)) ∧
      a.processAsync source file o =
        between o .async (searches file o) (.error (.config error)) := by
  rw [processOpen paired.legacy paired.commonJs, asyncOpen paired.esm]
  exact ⟨unresolvedRun unresolved, unresolvedRun ((sameResolution paired).trans unresolved)⟩

theorem bothEnd {found : Option Path} (resolved : s.resolution file o = .ok found) :
    ∃ p, Ends s file o p (s.process source file o) ∧
      Ends a file o p (a.processAsync source file o) := by
  have resolvedAsync := (sameResolution paired).trans resolved
  rw [processOpen paired.legacy paired.commonJs, asyncOpen paired.esm]
  cases found with
  | none =>
    exact ⟨⟨source, none⟩, preparedEnds resolved rfl (.unasked .sync),
      preparedEnds resolvedAsync rfl (.unasked .async)⟩
  | some config =>
    obtain ⟨p, loaded, worked, load, preprocessed⟩ := paired.delivered config resolved
    have fromWorker : s.fromWorker source file o config =
        ⟨[.work (request source file o config) o.outputLimit], .ok p⟩ := by
      rw [Transformer.fromWorker, Run.ask, request, worked]
      rfl
    have inPlace := loadedRun source file load
    rw [preprocessed] at inPlace
    exact ⟨p, preparedEnds resolved fromWorker (.nothingCompiled rfl),
      preparedEnds resolvedAsync inPlace (.nothingCompiled rfl)⟩

theorem sameLegacy : s.isLegacy o = true ∧ a.isLegacy o = true := by
  have legacy := legacyVersion.mpr paired.legacy
  have same : s.isLegacy o = a.isLegacy o := by rw [isLegacy, isLegacy, paired.compiler]
  exact ⟨legacy, same ▸ legacy⟩

theorem optionsSpelled (map : Option Json) :
    s.options file o map = .assemble file true .cjs map o.compilerOptions ∧
      a.options file o map = .assemble file true .esm map o.compilerOptions := by
  obtain ⟨legacy, legacyAsync⟩ := sameLegacy paired
  rw [options, options, legacy, legacyAsync, paired.commonJs, paired.esm]
  exact ⟨rfl, rfl⟩

theorem optionsAlike (map : Option Json) :
    SameButFormat o.compilerOptions (s.options file o map) (a.options file o map) := by
  obtain ⟨sync, async⟩ := optionsSpelled paired map
  rw [sync, async]
  exact ⟨fun key other => Compile.Options.assembledAlike other,
    fun free => ⟨Compile.Options.assembledFormat free, Compile.Options.assembledFormat free⟩,
    Compile.Options.assembledSame⟩

theorem moduleOptionsSame (map : Option Json) :
    (s.options file o map).forModule = (a.options file o map).forModule := by
  obtain ⟨sync, async⟩ := optionsSpelled paired map
  rw [sync, async]
  exact Compile.Options.assembledModule

end

theorem answersAlike {D E : Type} {s : Transformer D} {a : Transformer E}
    (commonJs : s.mode = .commonJs) (esm : a.mode = .esm)
    (answer : Except Compile.Error Compile.Output) :
    SameAnswer (s.handed answer) (a.handed answer) := by
  rw [handed, handed, commonJs, esm]
  cases answer with
  | error error => exact .failed error
  | ok output => exact .done (Compile.Result.ofOutput output .esm)

theorem sameCallAnswer {D E : Type} [Inhabited E] {s : Transformer D} {a : Transformer E}
    {source : String} {file : Path} {o : Options} (paired : Paired s a source file o) {p : Response}
    (same : s.compilation file o p = a.compilation file o p) :
    SameAnswer (s.outcome file o p) (a.outcome file o p) := by
  by_cases named : NamesModule file
  · obtain ⟨called, given⟩ := s.moduleCalled o p named
    obtain ⟨calledAsync, givenAsync⟩ := a.moduleCalled o p named
    rw [called, calledAsync] at same
    injection same with _ options
    rw [given, givenAsync, options, paired.compiler]
    exact answersAlike paired.commonJs paired.esm _
  · obtain ⟨called, given⟩ := s.componentCalled o p named
    obtain ⟨calledAsync, givenAsync⟩ := a.componentCalled o p named
    rw [called, calledAsync] at same
    injection same with _ options
    rw [given, givenAsync, options, paired.compiler]
    exact answersAlike paired.commonJs paired.esm _

theorem unresolvedAgree {file : Path} {o : Options} {sync async : Run Compile.Result}
    {error : ConfigError} (results : sync.result = .error (.config error) ∧
      async.result = .error (.config error)) (uncalled : sync.calls .compile = []) :
    Agreement file o sync async where
  config e := by rw [results.1, results.2]
  component _ resolved := absurd results.1 (resolved error)
  module _ resolved := absurd results.1 (resolved error)
  answers call called := by
    rw [uncalled] at called
    cases called

theorem endsAgree {D E : Type} [Inhabited E] {s : Transformer D} {a : Transformer E}
    {source : String} {file : Path} {o : Options} (paired : Paired s a source file o) {p : Response}
    {sync async : Run Compile.Result} (ends : Ends s file o p sync)
    (endsAsync : Ends a file o p async) :
    Agreement file o sync async where
  config error := ⟨fun failed => absurd failed (ends.notConfig error),
    fun failed => absurd failed (endsAsync.notConfig error)⟩
  component plain _ := by
    refine ⟨p.code, _, _, ?_, ?_, optionsAlike paired p.map⟩
    · rw [ends.calls, (s.componentCalled o p plain).1]
    · rw [endsAsync.calls, (a.componentCalled o p plain).1]
  module named _ := by
    refine ⟨p.code, (s.options file o p.map).forModule, ?_, ?_⟩
    · rw [ends.calls, (s.moduleCalled o p named).1]
    · rw [endsAsync.calls, (a.moduleCalled o p named).1, moduleOptionsSame paired]
  answers call called calledAsync := by
    rw [ends.calls] at called
    rw [endsAsync.calls] at calledAsync
    rw [ends.result, endsAsync.result]
    exact sameCallAnswer paired (List.cons.inj (called.trans calledAsync.symm)).1

/-- Whether a transformation waits for its preprocessing or not, it fails to find a config in the
same cases, and the compiler and the host are given the same up to the format. -/
theorem pathsAgree {D E : Type} [Inhabited E] {s : Transformer D} {a : Transformer E}
    {source : String} {file : Path} {o : Options} (paired : Paired s a source file o) :
    Agreement file o (s.process source file o) (a.processAsync source file o) := by
  cases resolution : s.resolution file o with
  | error error =>
    obtain ⟨sync, async⟩ := bothUnresolved paired resolution
    rw [sync, async]
    refine unresolvedAgree ⟨rfl, rfl⟩ ?_
    rw [betweenCalls o .sync _ _ (by decide)]
    exact noneOfKind fun e member => (searchesSearch file o e member) ▸ by decide
  | ok found =>
    obtain ⟨p, ends, endsAsync⟩ := bothEnd paired resolution
    exact endsAgree paired ends endsAsync

theorem endOfLineAgrees : ∃ (s a : Transformer Unit) (source : String) (file : Path) (o : Options),
    o.preprocess = .discover ∧ Paired s a source file o ∧
      Agreement file o (s.process source file o) (a.processAsync source file o) := by
  let compiler : Compile.Compiler :=
    ⟨some "3.55.0", fun source _ => .ok ⟨source, .null⟩, fun source _ => .ok ⟨source, .null⟩⟩
  let root := Path.ofString "/app"
  let lengthened (source : String) : Response := ⟨source ++ "\n", none⟩
  let s : Transformer Unit := ⟨.commonJs, compiler, root, fun _ => true,
    fun request _ => .ok (lengthened request.source), noLoader, noPreprocess⟩
  let a : Transformer Unit := ⟨.esm, compiler, root, fun _ => true,
    fun _ _ => .error (.protocol "" ""), fun _ => .ok ⟨none⟩,
    fun source _ _ => .ok (lengthened source)⟩
  let o : Options := { preprocess := .discover }
  have paired : Paired s a "<p/>" (.ofString "/app/A.svelte") o :=
    ⟨rfl, rfl, rfl, rfl, rfl, ⟨⟨"3.55.0"⟩, rfl, by decide⟩,
      fun _ _ => ⟨lengthened "<p/>", ⟨none⟩, rfl, rfl, rfl⟩⟩
  exact ⟨s, a, _, _, o, rfl, paired, pathsAgree paired⟩

end SvelteTransform.Transformer
