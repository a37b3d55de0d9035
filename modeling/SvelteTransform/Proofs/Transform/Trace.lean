import SvelteTransform.Transform.Process

/-! What a transformation does, in order. Past its gates every run is the same: a line that
announces it, what is asked before the compilation, one call of the compiler unless something
failed, and a line about what came of it. -/
namespace SvelteTransform
open Worker

namespace Run
variable {α β : Type}

theorem doneBind (events : List Event) (a : α) (next : α → Run β) :
    (⟨events, .ok a⟩ : Run α) >>= next = ⟨events ++ (next a).events, (next a).result⟩ := rfl

theorem failedBind (events : List Event) (error : TransformError) (next : α → Run β) :
    (⟨events, .error error⟩ : Run α) >>= next = ⟨events, .error error⟩ := rfl

theorem bindAssoc {γ : Type} (r : Run α) (next : α → Run β) (last : β → Run γ) :
    (r >>= next) >>= last = r >>= fun a => next a >>= last := by
  obtain ⟨events, result⟩ := r
  cases result with
  | error e => rfl
  | ok a =>
    rw [doneBind, doneBind]
    obtain ⟨more, result⟩ := next a
    cases result with
    | error e => rfl
    | ok b => simp only [doneBind, List.append_assoc]

theorem openingBind (first second : List Event) (result : Except TransformError α)
    (next : α → Run β) :
    ((⟨first, .ok ()⟩ : Run Unit) >>= fun _ => (⟨second, result⟩ : Run α) >>= next) =
      (⟨first ++ second, result⟩ : Run α) >>= next := by
  cases result with
  | error e => rfl
  | ok a => simp only [doneBind, List.append_assoc]

end Run

namespace Transformer
variable {Definition : Type} (t : Transformer Definition)

def version? (o : Options) : Option Version := o.version.or (t.compiler.version.map Version.mk)

def TakesSvelte3 (o : Options) : Prop := ∃ v, t.version? o = some v ∧ v.major = some 3

variable {t}

theorem legacyVersion {o : Options} : t.isLegacy o = true ↔ t.TakesSvelte3 o := by
  unfold isLegacy Options.isLegacy TakesSvelte3 version?
  cases o.version with
  | some v => simp [Version.isLegacy]
  | none => cases t.compiler.version <;> simp [Version.isLegacy]

def opening (o : Options) (entry : Entry) : List Event :=
  if o.debug then [.report ⟨.debug, announcement entry⟩] else []

def closing (o : Options) : Except TransformError Compile.Result → List Event
  | .ok result => if o.debug then [.report ⟨.log, result.code⟩] else []
  | .error (.compile error) => [.report ⟨.error, error.report⟩]
  | .error _ => []

def between (o : Options) (entry : Entry) (calls : List Event)
    (result : Except TransformError Compile.Result) : Run Compile.Result :=
  ⟨opening o entry ++ calls ++ closing o result, result⟩

variable (t)

def options (file : Path) (o : Options) (sourcemap : Option Json) : Compile.Options :=
  .assemble file (t.isLegacy o) t.mode.format sourcemap o.compilerOptions

def compilation (file : Path) (o : Options) (r : Response) : Event :=
  (t.callCompiler file r.code (t.options file o r.map)).1

def outcome (file : Path) (o : Options) (r : Response) : Except TransformError Compile.Result :=
  ((t.callCompiler file r.code (t.options file o r.map)).2.mapError .compile).map
    (Compile.Result.ofOutput · t.mode.format)

theorem compileRun (file : Path) (o : Options) (r : Response) :
    t.compileResponse file o r =
      ⟨t.compilation file o r :: closing o (t.outcome file o r), t.outcome file o r⟩ := by
  unfold compileResponse compile outcome compilation options
  dsimp only
  cases (t.callCompiler file r.code _).2 with
  | error error => rfl
  | ok output => rfl

theorem announceRun (o : Options) (entry : Entry) :
    announce o entry = ⟨opening o entry, .ok ()⟩ := by
  unfold announce opening
  split <;> rfl

def resolution (file : Path) (o : Options) : Except ConfigError (Option Path) :=
  Config.resolve t.isFile t.root o.rootMode file o.preprocess

def searches (file : Path) (o : Options) : List Event :=
  if o.preprocess = .discover then [.search o.rootMode file] else []

theorem resolveRun (file : Path) (o : Options) :
    t.resolve file o = ⟨searches file o, (t.resolution file o).mapError .config⟩ := by
  unfold resolve resolution searches
  cases o.preprocess <;> rfl

variable {t}

theorem resolutionDisabled {file : Path} {o : Options} :
    t.resolution file o = .ok none ↔ o.preprocess = .disabled := by
  unfold resolution
  cases o.preprocess with
  | disabled => exact ⟨fun _ => rfl, fun _ => rfl⟩
  | path config => exact ⟨nofun, nofun⟩
  | discover =>
    refine ⟨fun resolved => ?_, nofun⟩
    unfold Config.resolve at resolved
    dsimp only at resolved
    cases found : Config.discover t.isFile t.root o.rootMode file <;>
      rw [found] at resolved <;> cases resolved

theorem processModern {source : String} {file : Path} {o : Options} (modern : ¬ t.TakesSvelte3 o) :
    t.process source file o = .fail .legacyOnly := by
  have notLegacy : t.isLegacy o = false := Bool.eq_false_iff.mpr (mt legacyVersion.mp modern)
  rw [process, notLegacy]
  rfl

theorem processMismatched {source : String} {file : Path} {o : Options} (legacy : t.TakesSvelte3 o)
    (esm : t.mode = .esm) : t.process source file o = .fail (.modeMismatch .sync .esm) := by
  rw [process, legacyVersion.mpr legacy, expectMode, esm]
  rfl

theorem asyncMismatched [Inhabited Definition] {source : String} {file : Path} {o : Options}
    (commonJs : t.mode = .commonJs) :
    t.processAsync source file o = .fail (.modeMismatch .async .commonJs) := by
  rw [processAsync, expectMode, commonJs]
  rfl

def request (source : String) (file : Path) (o : Options) (config : Path) : Request :=
  ⟨source, file, config, o.showLog⟩

variable (t) (source : String) (file : Path) (o : Options)

def fromWorker (config : Path) : Run Response :=
  .ask (.work (request source file o config) o.outputLimit) .worker
    (t.worker (request source file o config) o.outputLimit)

def inPlace [Inhabited Definition] (config : Path) : Run Response :=
  .ask (.load config) .config (t.load config) >>= fun loaded =>
    .ask (.preprocess source file) .preprocess (t.preprocess source file loaded.definition)

def unprocessed : Run Response := pure ⟨source, none⟩

def behindGates (entry : Entry) (preprocessed : Path → Run Response) : Run Compile.Result :=
  (⟨opening o entry ++ searches file o, (t.resolution file o).mapError .config⟩ :
    Run (Option Path)) >>= fun config =>
      config.elim (unprocessed source) preprocessed >>= t.compileResponse file o

variable {t} {source} {file} {o}

theorem processOpen (legacy : t.TakesSvelte3 o) (commonJs : t.mode = .commonJs) :
    t.process source file o = t.behindGates source file o .sync (t.fromWorker source file o) := by
  have passed : t.process source file o = announce o .sync >>= fun _ => t.resolve file o >>=
      fun config => config.elim (unprocessed source) (t.fromWorker source file o) >>=
        t.compileResponse file o := by
    rw [process, legacyVersion.mpr legacy, expectMode, commonJs]
    match t.resolve file o with
    | ⟨_, .error _⟩ => rfl
    | ⟨_, .ok none⟩ => rfl
    | ⟨_, .ok (some _)⟩ => rfl
  rw [passed, announceRun, resolveRun]
  exact Run.openingBind _ _ _ _

theorem asyncOpen [Inhabited Definition] (esm : t.mode = .esm) :
    t.processAsync source file o =
      t.behindGates source file o .async (t.inPlace source file) := by
  have passed : t.processAsync source file o = announce o .async >>= fun _ => t.resolve file o >>=
      fun config => config.elim (unprocessed source) (t.inPlace source file) >>=
        t.compileResponse file o := by
    rw [processAsync, expectMode, esm]
    match t.resolve file o with
    | ⟨_, .error _⟩ => rfl
    | ⟨_, .ok none⟩ => rfl
    | ⟨events, .ok (some config)⟩ =>
      have assoc : t.inPlace source file config >>= t.compileResponse file o = _ :=
        Run.bindAssoc _ _ _
      exact congrArg (fun next => announce o .async >>= fun _ =>
        (⟨events, .ok ()⟩ : Run Unit) >>= fun _ => next) assoc.symm
  rw [passed, announceRun, resolveRun]
  exact Run.openingBind _ _ _ _

section
variable {entry : Entry} {preprocessed : Path → Run Response}

theorem unresolvedRun {error : ConfigError} (unresolved : t.resolution file o = .error error) :
    t.behindGates source file o entry preprocessed =
      between o entry (searches file o) (.error (.config error)) := by
  rw [behindGates, unresolved, between, show closing o (.error (.config error)) = [] from rfl,
    List.append_nil]
  rfl

variable {config : Option Path} (resolved : t.resolution file o = .ok config) {asked : List Event}
include resolved

theorem preparedRun {r : Response}
    (prepared : config.elim (unprocessed source) preprocessed = ⟨asked, .ok r⟩) :
    t.behindGates source file o entry preprocessed =
      between o entry (searches file o ++ asked ++ [t.compilation file o r])
        (t.outcome file o r) := by
  rw [behindGates, resolved]
  change (⟨opening o entry ++ searches file o, .ok config⟩ : Run (Option Path)) >>= _ = _
  rw [Run.doneBind, prepared, Run.doneBind, compileRun, between]
  simp

theorem refusedRun {error : TransformError}
    (prepared : config.elim (unprocessed source) preprocessed = ⟨asked, .error error⟩)
    (quiet : closing o (.error error) = []) :
    t.behindGates source file o entry preprocessed =
      between o entry (searches file o ++ asked) (.error error) := by
  rw [behindGates, resolved]
  change (⟨opening o entry ++ searches file o, .ok config⟩ : Run (Option Path)) >>= _ = _
  rw [Run.doneBind, prepared, Run.failedBind, between, quiet]
  simp

end

end Transformer
end SvelteTransform
