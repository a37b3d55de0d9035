import SvelteTransform.Proofs.Transform.Trace

/-! What a transformation does to its surroundings: which calls it makes, how often, in which order
and with what, whatever those that are called do. -/
namespace SvelteTransform
open Worker

inductive Event.Kind where
  | search
  | work
  | load
  | preprocess
  | compile
  | report
  deriving DecidableEq

def Event.kind : Event → Kind
  | .search .. => .search
  | .work .. => .work
  | .load _ => .load
  | .preprocess .. => .preprocess
  | .component .. => .compile
  | .module .. => .compile
  | .report _ => .report

def Run.calls {α : Type} (r : Run α) (kind : Event.Kind) : List Event :=
  r.events.filter (·.kind = kind)

def Entry.preprocessing : Entry → List Event.Kind
  | .sync => [.work]
  | .async => [.load, .preprocess]

def NamesModule (file : Path) : Prop :=
  ".svelte.js".toList <:+ file.lastName ∨ ".svelte.ts".toList <:+ file.lastName

namespace Transformer
variable {Definition : Type}

section
variable (t : Transformer Definition) (source : String) (file : Path) (o : Options)
  (r : Run Compile.Result)

structure Answers (answer : Except Compile.Error Compile.Output) : Prop where
  failed : ∀ error, answer = .error error → r.result = .error (.compile error)
  done : ∀ output, answer = .ok output → r.result = .ok (.ofOutput output t.mode.format)

structure Compiles (code : String) (map : Option Json) : Prop where
  component : ¬ NamesModule file →
    r.calls .compile = [.component code (t.options file o map)] ∧
    t.Answers r (t.compiler.component code (t.options file o map))
  module : NamesModule file →
    r.calls .compile = [.module code (t.options file o map).forModule] ∧
    t.Answers r (t.compiler.module code (t.options file o map).forModule)

structure Refuses (error : TransformError) : Prop where
  notCompiled : r.calls .compile = []
  unchanged : r.result = .error error

structure Works (config : Path) : Prop where
  once : r.calls .work = [.work ⟨source, file, config, o.showLog⟩ o.outputLimit]
  failed : ∀ failure, t.worker ⟨source, file, config, o.showLog⟩ o.outputLimit = .error failure →
    Refuses r (.worker failure)
  done : ∀ response, t.worker ⟨source, file, config, o.showLog⟩ o.outputLimit = .ok response →
    t.Compiles file o r response.code response.map

structure Loads [Inhabited Definition] (config : Path) : Prop where
  once : r.calls .load = [.load config]
  notLoaded : ∀ error, t.load config = .error error →
    r.calls .preprocess = [] ∧ Refuses r (.config error)
  loaded : ∀ loaded, t.load config = .ok loaded → r.calls .preprocess = [.preprocess source file]
  failed : ∀ loaded, t.load config = .ok loaded →
    ∀ message, t.preprocess source file loaded.definition = .error message →
      Refuses r (.preprocess message)
  done : ∀ loaded, t.load config = .ok loaded →
    ∀ response, t.preprocess source file loaded.definition = .ok response →
      t.Compiles file o r response.code response.map

structure Passes (entry : Entry) (preprocesses : Path → Prop) : Prop where
  order : r.events = opening o entry ++ r.calls .search ++ entry.preprocessing.flatMap r.calls ++
    r.calls .compile ++ closing o r.result
  searched : r.calls .search =
    if o.preprocess = .discover then [.search o.rootMode file] else []
  disabled : o.preprocess.isEnabled = false →
    entry.preprocessing.flatMap r.calls = [] ∧ t.Compiles file o r source none
  unresolved : ∀ error, t.resolution file o = .error error →
    entry.preprocessing.flatMap r.calls = [] ∧ Refuses r (.config error)
  resolved : o.preprocess.isEnabled = true → ∀ found, t.resolution file o = .ok found →
    ∃ config, found = some config ∧ preprocesses config

structure SyncLaw : Prop where
  legacyOnly : r.result = .error .legacyOnly ↔ ¬ t.TakesSvelte3 o
  mismatch : ∀ entry mode, r.result = .error (.modeMismatch entry mode) ↔
    entry = .sync ∧ mode = .esm ∧ t.TakesSvelte3 o ∧ t.mode = .esm
  nothing : ¬ t.TakesSvelte3 o ∨ t.mode = .esm → r.events = []
  passed : t.TakesSvelte3 o → t.mode = .commonJs →
    t.Passes source file o r .sync (t.Works source file o r)

structure AsyncLaw [Inhabited Definition] : Prop where
  mismatch : ∀ entry mode, r.result = .error (.modeMismatch entry mode) ↔
    entry = .async ∧ mode = .commonJs ∧ t.mode = .commonJs
  nothing : t.mode = .commonJs → r.events = []
  passed : t.mode = .esm → t.Passes source file o r .async (t.Loads source file o r)

end

theorem noneOfKind {events : List Event} {kind : Event.Kind} (other : ∀ e ∈ events, e.kind ≠ kind) :
    events.filter (·.kind = kind) = [] :=
  List.filter_eq_nil_iff.mpr fun e member same => other e member (of_decide_eq_true same)

theorem allOfKind {events : List Event} {kind : Event.Kind} (same : ∀ e ∈ events, e.kind = kind) :
    events.filter (·.kind = kind) = events :=
  List.filter_eq_self.mpr fun e member => decide_eq_true (same e member)

theorem openingReports (o : Options) (entry : Entry) : ∀ e ∈ opening o entry, e.kind = .report := by
  unfold opening
  split
  · exact List.forall_mem_singleton.mpr rfl
  · exact fun _ member => absurd member List.not_mem_nil

theorem closingReports (o : Options) (result : Except TransformError Compile.Result) :
    ∀ e ∈ closing o result, e.kind = .report := by
  unfold closing
  split
  · split
    · exact List.forall_mem_singleton.mpr rfl
    · exact fun _ member => absurd member List.not_mem_nil
  · exact List.forall_mem_singleton.mpr rfl
  · exact fun _ member => absurd member List.not_mem_nil

theorem searchesSearch (file : Path) (o : Options) : ∀ e ∈ searches file o, e.kind = .search := by
  unfold searches
  split
  · exact List.forall_mem_singleton.mpr rfl
  · exact fun _ member => absurd member List.not_mem_nil

theorem preprocessingKinds {entry : Entry} {kind : Event.Kind}
    (isKind : kind ∈ entry.preprocessing) :
    kind ≠ .search ∧ kind ≠ .compile ∧ kind ≠ .report := by
  cases entry <;> cases kind <;> revert isKind <;> decide

theorem betweenCalls (o : Options) (entry : Entry) (events : List Event)
    (result : Except TransformError Compile.Result) {kind : Event.Kind} (other : kind ≠ .report) :
    (between o entry events result).calls kind = events.filter (·.kind = kind) := by
  have noOpening := noneOfKind fun e member => (openingReports o entry e member) ▸ other.symm
  have noClosing := noneOfKind fun e member => (closingReports o result e member) ▸ other.symm
  simp only [between, Run.calls, List.filter_append, noOpening, noClosing, List.nil_append,
    List.append_nil]

structure Staged (entry : Entry) (asked compiled : List Event) : Prop where
  asked : entry.preprocessing.flatMap (fun kind => asked.filter (·.kind = kind)) = asked
  compiled : ∀ e ∈ compiled, e.kind = .compile

namespace Staged
variable {entry : Entry} {asked compiled : List Event} (staged : Staged entry asked compiled)
  (file : Path) (o : Options) (result : Except TransformError Compile.Result)
include staged

theorem askedKind : ∀ e ∈ asked, e.kind ∈ entry.preprocessing := by
  intro e member
  rw [← staged.asked] at member
  obtain ⟨kind, isKind, among⟩ := List.mem_flatMap.mp member
  have same : e.kind = kind := by simpa using (List.mem_filter.mp among).2
  exact same ▸ isKind

theorem searchCalls :
    (between o entry (searches file o ++ asked ++ compiled) result).calls .search =
      searches file o := by
  have notAsked : asked.filter (·.kind = .search) = [] :=
    noneOfKind fun e member => (preprocessingKinds (staged.askedKind e member)).1
  have notCompiled : compiled.filter (·.kind = .search) = [] :=
    noneOfKind fun e member => (staged.compiled e member) ▸ by decide
  rw [betweenCalls o entry _ result (by decide), List.filter_append, List.filter_append, notAsked,
    notCompiled, allOfKind (searchesSearch file o), List.append_nil, List.append_nil]

theorem askedCalls {kind : Event.Kind} (isKind : kind ∈ entry.preprocessing) :
    (between o entry (searches file o ++ asked ++ compiled) result).calls kind =
      asked.filter (·.kind = kind) := by
  obtain ⟨notSearch, notCompile, notReport⟩ := preprocessingKinds isKind
  have notSearched : (searches file o).filter (·.kind = kind) = [] :=
    noneOfKind fun e member => (searchesSearch file o e member) ▸ notSearch.symm
  have notCompiled : compiled.filter (·.kind = kind) = [] :=
    noneOfKind fun e member => (staged.compiled e member) ▸ notCompile.symm
  rw [betweenCalls o entry _ result notReport, List.filter_append, List.filter_append, notSearched,
    notCompiled, List.nil_append, List.append_nil]

theorem preprocessingCalls : entry.preprocessing.flatMap
    (between o entry (searches file o ++ asked ++ compiled) result).calls = asked := by
  rw [List.flatMap_def, List.map_congr_left fun kind => staged.askedCalls file o result,
    ← List.flatMap_def, staged.asked]

theorem compileCalls :
    (between o entry (searches file o ++ asked ++ compiled) result).calls .compile = compiled := by
  have notSearched : (searches file o).filter (·.kind = .compile) = [] :=
    noneOfKind fun e member => (searchesSearch file o e member) ▸ by decide
  have notAsked : asked.filter (·.kind = .compile) = [] :=
    noneOfKind fun e member => (preprocessingKinds (staged.askedKind e member)).2.1
  rw [betweenCalls o entry _ result (by decide), List.filter_append, List.filter_append,
    notSearched, notAsked, allOfKind staged.compiled]
  rfl

theorem order : (between o entry (searches file o ++ asked ++ compiled) result).events =
    opening o entry ++
      (between o entry (searches file o ++ asked ++ compiled) result).calls .search ++
      entry.preprocessing.flatMap
        (between o entry (searches file o ++ asked ++ compiled) result).calls ++
      (between o entry (searches file o ++ asked ++ compiled) result).calls .compile ++
      closing o result := by
  rw [staged.searchCalls, staged.preprocessingCalls, staged.compileCalls, between]
  simp only [List.append_assoc]

end Staged

theorem endsModule {file : Path} : Compile.Target.ofPath file = .module ↔ NamesModule file := by
  unfold Compile.Target.ofPath NamesModule Compile.Target.moduleEndings
  simp only [List.any_cons, List.any_nil, Bool.or_false, Bool.or_eq_true,
    List.isSuffixOf_iff_suffix]
  split <;> simp_all

section
variable (t : Transformer Definition) (file : Path) (o : Options) (p : Response)

def handed (answer : Except Compile.Error Compile.Output) :
    Except TransformError Compile.Result :=
  (answer.mapError .compile).map (Compile.Result.ofOutput · t.mode.format)

variable {file} in
theorem componentCalled (plain : ¬ NamesModule file) :
    t.compilation file o p = .component p.code (t.options file o p.map) ∧
      t.outcome file o p = t.handed (t.compiler.component p.code (t.options file o p.map)) := by
  have target : Compile.Target.ofPath file = .component := by
    cases target : Compile.Target.ofPath file with
    | component => rfl
    | module => exact absurd (endsModule.mp target) plain
  simp only [compilation, outcome, callCompiler, target, handed, and_self]

variable {file} in
theorem moduleCalled (named : NamesModule file) :
    t.compilation file o p = .module p.code (t.options file o p.map).forModule ∧
      t.outcome file o p =
        t.handed (t.compiler.module p.code (t.options file o p.map).forModule) := by
  simp only [compilation, outcome, callCompiler, endsModule.mpr named, handed, and_self]

theorem answersHanded {answer : Except Compile.Error Compile.Output} {r : Run Compile.Result}
    (result : r.result = t.handed answer) : t.Answers r answer where
  failed error isError := by rw [result, isError]; rfl
  done output isOutput := by rw [result, isOutput]; rfl

theorem compilesOnce {r : Run Compile.Result} (calls : r.calls .compile = [t.compilation file o p])
    (result : r.result = t.outcome file o p) : t.Compiles file o r p.code p.map where
  component plain := by
    obtain ⟨called, given⟩ := t.componentCalled o p plain
    rw [called] at calls
    exact ⟨calls, t.answersHanded (result.trans given)⟩
  module named := by
    obtain ⟨called, given⟩ := t.moduleCalled o p named
    rw [called] at calls
    exact ⟨calls, t.answersHanded (result.trans given)⟩

theorem compilationKind : (t.compilation file o p).kind = .compile := by
  unfold compilation callCompiler
  split <;> rfl

end

section
variable {t : Transformer Definition} {source : String} {file : Path} {o : Options} {entry : Entry}
  {preprocessed : Path → Run Response}

theorem Staged.nothingCompiled {asked : List Event}
    (own : entry.preprocessing.flatMap (fun kind => asked.filter (·.kind = kind)) = asked) :
    Staged entry asked [] := ⟨own, fun _ member => absurd member List.not_mem_nil⟩

theorem Staged.unasked (entry : Entry) : Staged entry [] [] :=
  .nothingCompiled (by cases entry <;> rfl)

theorem Staged.andCompiled {asked : List Event} (staged : Staged entry asked []) {call : Event}
    (compiles : call.kind = .compile) : Staged entry asked [call] :=
  ⟨staged.asked, List.forall_mem_singleton.mpr compiles⟩

theorem unresolvedShape {error : ConfigError} (unresolved : t.resolution file o = .error error) :
    t.behindGates source file o entry preprocessed =
      between o entry (searches file o ++ [] ++ []) (.error (.config error)) := by
  rw [unresolvedRun unresolved, List.append_nil, List.append_nil]

theorem refusedShape (source : String) (entry : Entry) {config : Path}
    (resolved : t.resolution file o = .ok (some config)) {asked : List Event}
    {error : TransformError} (refused : preprocessed config = ⟨asked, .error error⟩)
    (quiet : closing o (.error error) = []) :
    t.behindGates source file o entry preprocessed =
      between o entry (searches file o ++ asked ++ []) (.error error) := by
  rw [refusedRun resolved refused quiet, List.append_nil]

theorem preparedShape (source : String) (entry : Entry) {config : Path}
    (resolved : t.resolution file o = .ok (some config)) {asked : List Event} {p : Response}
    (prepared : preprocessed config = ⟨asked, .ok p⟩) :
    t.behindGates source file o entry preprocessed =
      between o entry (searches file o ++ asked ++ [t.compilation file o p]) (t.outcome file o p) :=
  preparedRun resolved prepared

theorem notEnabled : o.preprocess.isEnabled = false ↔ t.resolution file o = .ok none := by
  rw [resolutionDisabled]
  cases o.preprocess <;> simp [PreprocessSetting.isEnabled]

theorem passesUnresolved {error : ConfigError} (unresolved : t.resolution file o = .error error)
    (preprocesses : Path → Prop) :
    t.Passes source file o (t.behindGates source file o entry preprocessed) entry preprocesses := by
  have staged := Staged.unasked entry
  rw [unresolvedShape unresolved]
  refine ⟨staged.order file o _, staged.searchCalls file o _, fun off => ?_, fun e same => ?_,
    fun _ found same => ?_⟩
  · rw [notEnabled.mp off] at unresolved
    cases unresolved
  · rw [unresolved] at same
    cases same
    exact ⟨staged.preprocessingCalls file o _, staged.compileCalls file o _, rfl⟩
  · rw [unresolved] at same
    cases same

theorem passesDisabled (disabled : t.resolution file o = .ok none) (preprocesses : Path → Prop) :
    t.Passes source file o (t.behindGates source file o entry preprocessed) entry preprocesses := by
  have staged := (Staged.unasked entry).andCompiled (t.compilationKind file o ⟨source, none⟩)
  rw [preparedRun disabled rfl]
  refine ⟨staged.order file o _, staged.searchCalls file o _, fun _ => ?_, fun e same => ?_,
    fun on => ?_⟩
  · exact ⟨staged.preprocessingCalls file o _,
      t.compilesOnce file o ⟨source, none⟩ (staged.compileCalls file o _) rfl⟩
  · rw [disabled] at same
    cases same
  · rw [notEnabled.mpr disabled] at on
    cases on

theorem passesResolved {config : Path} (resolved : t.resolution file o = .ok (some config))
    {asked compiled : List Event} (staged : Staged entry asked compiled)
    {result : Except TransformError Compile.Result}
    (shape : t.behindGates source file o entry preprocessed =
      between o entry (searches file o ++ asked ++ compiled) result)
    {preprocesses : Path → Prop} (ran : preprocesses config) :
    t.Passes source file o (t.behindGates source file o entry preprocessed) entry preprocesses := by
  rw [shape]
  refine ⟨staged.order file o _, staged.searchCalls file o _, fun off => ?_, fun e same => ?_,
    fun _ found same => ?_⟩
  · rw [notEnabled.mp off] at resolved
    cases resolved
  · rw [resolved] at same
    cases same
  · rw [resolved] at same
    cases same
    exact ⟨config, rfl, ran⟩

end

section
variable {t : Transformer Definition} {source : String} {file : Path} {o : Options} {config : Path}
  (resolved : t.resolution file o = .ok (some config))
include resolved

theorem workerFailed {failure : Failure}
    (answer : t.worker (request source file o config) o.outputLimit = .error failure) :
    t.Passes source file o (t.behindGates source file o .sync (t.fromWorker source file o)) .sync
      (t.Works source file o (t.behindGates source file o .sync (t.fromWorker source file o))) := by
  have asked : t.fromWorker source file o config =
      ⟨[.work (request source file o config) o.outputLimit], .error (.worker failure)⟩ := by
    rw [fromWorker, Run.ask, answer]
    rfl
  have staged : Staged .sync [.work (request source file o config) o.outputLimit] [] :=
    .nothingCompiled rfl
  have shape := refusedShape source .sync resolved asked rfl
  refine passesResolved resolved staged shape ?_
  rw [shape]
  refine ⟨staged.askedCalls file o _ (by decide), fun _ same => ?_, fun _ same => ?_⟩
  · cases answer.symm.trans same
    exact ⟨staged.compileCalls file o _, rfl⟩
  · cases answer.symm.trans same

theorem workerDone {p : Response}
    (answer : t.worker (request source file o config) o.outputLimit = .ok p) :
    t.Passes source file o (t.behindGates source file o .sync (t.fromWorker source file o)) .sync
      (t.Works source file o (t.behindGates source file o .sync (t.fromWorker source file o))) := by
  have asked : t.fromWorker source file o config =
      ⟨[.work (request source file o config) o.outputLimit], .ok p⟩ := by
    rw [fromWorker, Run.ask, answer]
    rfl
  have staged : Staged .sync [.work (request source file o config) o.outputLimit]
      [t.compilation file o p] :=
    (Staged.nothingCompiled rfl).andCompiled (t.compilationKind file o p)
  have shape := preparedShape source .sync resolved asked
  refine passesResolved resolved staged shape ?_
  rw [shape]
  refine ⟨staged.askedCalls file o _ (by decide), fun _ same => ?_, fun _ same => ?_⟩
  · cases answer.symm.trans same
  · cases answer.symm.trans same
    exact t.compilesOnce file o p (staged.compileCalls file o _) rfl

end

section
variable [Inhabited Definition] {t : Transformer Definition} {source : String} {file : Path}
  {o : Options} {config : Path}

theorem loadedRun (source : String) (file : Path) {loaded : LoadedConfig Definition}
    (answer : t.load config = .ok loaded) :
    t.inPlace source file config = ⟨[.load config, .preprocess source file],
      (t.preprocess source file loaded.definition).mapError .preprocess⟩ := by
  rw [inPlace, Run.ask, answer]
  rfl

variable (resolved : t.resolution file o = .ok (some config))
include resolved

theorem loadFailed {error : ConfigError} (answer : t.load config = .error error) :
    t.Passes source file o (t.behindGates source file o .async (t.inPlace source file)) .async
      (t.Loads source file o (t.behindGates source file o .async (t.inPlace source file))) := by
  have asked : t.inPlace source file config = ⟨[.load config], .error (.config error)⟩ := by
    rw [inPlace, Run.ask, answer]
    rfl
  have staged : Staged .async [.load config] [] := .nothingCompiled rfl
  have shape := refusedShape source .async resolved asked rfl
  refine passesResolved resolved staged shape ?_
  rw [shape]
  refine ⟨staged.askedCalls file o _ (by decide), fun _ same => ?_, fun _ same => ?_,
    fun _ same => ?_, fun _ same => ?_⟩
  · cases answer.symm.trans same
    exact ⟨staged.askedCalls file o _ (by decide), staged.compileCalls file o _, rfl⟩
  all_goals cases answer.symm.trans same

theorem preprocessFailed {loaded : LoadedConfig Definition} (answer : t.load config = .ok loaded)
    {message : String} (failed : t.preprocess source file loaded.definition = .error message) :
    t.Passes source file o (t.behindGates source file o .async (t.inPlace source file)) .async
      (t.Loads source file o (t.behindGates source file o .async (t.inPlace source file))) := by
  have asked := loadedRun source file answer
  rw [failed] at asked
  have staged : Staged .async [.load config, .preprocess source file] [] := .nothingCompiled rfl
  have shape := refusedShape source .async resolved asked rfl
  refine passesResolved resolved staged shape ?_
  rw [shape]
  refine ⟨staged.askedCalls file o _ (by decide), fun _ same => ?_, fun _ same => ?_,
    fun _ same _ again => ?_, fun _ same _ again => ?_⟩
  · cases answer.symm.trans same
  · exact staged.askedCalls file o _ (by decide)
  · cases answer.symm.trans same
    cases failed.symm.trans again
    exact ⟨staged.compileCalls file o _, rfl⟩
  · cases answer.symm.trans same
    cases failed.symm.trans again

theorem preprocessDone {loaded : LoadedConfig Definition} (answer : t.load config = .ok loaded)
    {p : Response} (done : t.preprocess source file loaded.definition = .ok p) :
    t.Passes source file o (t.behindGates source file o .async (t.inPlace source file)) .async
      (t.Loads source file o (t.behindGates source file o .async (t.inPlace source file))) := by
  have asked := loadedRun source file answer
  rw [done] at asked
  have staged : Staged .async [.load config, .preprocess source file] [t.compilation file o p] :=
    (Staged.nothingCompiled rfl).andCompiled (t.compilationKind file o p)
  have shape := preparedShape source .async resolved asked
  refine passesResolved resolved staged shape ?_
  rw [shape]
  refine ⟨staged.askedCalls file o _ (by decide), fun _ same => ?_, fun _ same => ?_,
    fun _ same _ again => ?_, fun _ same _ again => ?_⟩
  · cases answer.symm.trans same
  · exact staged.askedCalls file o _ (by decide)
  · cases answer.symm.trans same
    cases done.symm.trans again
  · cases answer.symm.trans same
    cases done.symm.trans again
    exact t.compilesOnce file o p (staged.compileCalls file o _) rfl

end

variable {t : Transformer Definition} {source : String} {file : Path} {o : Options}

theorem workerPasses (legacy : t.TakesSvelte3 o) (commonJs : t.mode = .commonJs) :
    t.Passes source file o (t.process source file o) .sync
      (t.Works source file o (t.process source file o)) := by
  rw [processOpen legacy commonJs]
  match resolution : t.resolution file o with
  | .error error => exact passesUnresolved resolution _
  | .ok none => exact passesDisabled resolution _
  | .ok (some config) =>
    cases answer : t.worker (request source file o config) o.outputLimit with
    | error failure => exact workerFailed resolution answer
    | ok p => exact workerDone resolution answer

theorem loaderPasses [Inhabited Definition] (esm : t.mode = .esm) :
    t.Passes source file o (t.processAsync source file o) .async
      (t.Loads source file o (t.processAsync source file o)) := by
  rw [asyncOpen esm]
  match resolution : t.resolution file o with
  | .error error => exact passesUnresolved resolution _
  | .ok none => exact passesDisabled resolution _
  | .ok (some config) =>
    cases answer : t.load config with
    | error error => exact loadFailed resolution answer
    | ok loaded =>
      cases response : t.preprocess source file loaded.definition with
      | error message => exact preprocessFailed resolution answer response
      | ok p => exact preprocessDone resolution answer response

def IsGate : TransformError → Prop
  | .legacyOnly => True
  | .modeMismatch .. => True
  | _ => False

theorem bindFails {α β : Type} {r : Run α} {next : α → Run β} {error : TransformError}
    (failed : (r >>= next).result = .error error) :
    r.result = .error error ∨ ∃ a, r.result = .ok a ∧ (next a).result = .error error := by
  obtain ⟨events, result⟩ := r
  cases result with
  | error e =>
    cases failed
    exact .inl rfl
  | ok a => exact .inr ⟨a, rfl, failed⟩

theorem notGate {α ε : Type} {answer : Except ε α} {wrap : ε → TransformError}
    (own : ∀ e, ¬ IsGate (wrap e)) {error : TransformError}
    (failed : answer.mapError wrap = .error error) : ¬ IsGate error := by
  cases answer with
  | error e =>
    cases failed
    exact own e
  | ok => cases failed

theorem behindNotGate {entry : Entry} {preprocessed : Path → Run Response}
    (own : ∀ config error, (preprocessed config).result = .error error → ¬ IsGate error)
    {error : TransformError}
    (failed : (t.behindGates source file o entry preprocessed).result = .error error) :
    ¬ IsGate error := by
  obtain failed | ⟨config, _, failed⟩ := bindFails failed
  · exact notGate (fun _ => id) failed
  · obtain failed | ⟨p, _, failed⟩ := bindFails failed
    · cases config with
      | none => cases failed
      | some config => exact own config error failed
    · rw [compileRun, outcome] at failed
      cases answer : (t.callCompiler file p.code (t.options file o p.map)).2 with
      | error e =>
        rw [answer] at failed
        cases failed
        exact id
      | ok output =>
        rw [answer] at failed
        cases failed

theorem syncNotGate (legacy : t.TakesSvelte3 o) (commonJs : t.mode = .commonJs)
    {error : TransformError} (failed : (t.process source file o).result = .error error) :
    ¬ IsGate error := by
  rw [processOpen legacy commonJs] at failed
  exact behindNotGate (fun config e failed => notGate (fun _ => id) failed) failed

theorem asyncNotGate [Inhabited Definition] (esm : t.mode = .esm) {error : TransformError}
    (failed : (t.processAsync source file o).result = .error error) : ¬ IsGate error := by
  rw [asyncOpen esm] at failed
  refine behindNotGate (fun config e failed => ?_) failed
  obtain failed | ⟨loaded, _, failed⟩ := bindFails failed
  · exact notGate (fun _ => id) failed
  · exact notGate (fun _ => id) failed

theorem syncLaw (t : Transformer Definition) (source : String) (file : Path) (o : Options) :
    t.SyncLaw source file o (t.process source file o) where
  legacyOnly := by
    refine ⟨fun result legacy => ?_, fun modern => congrArg Run.result (processModern modern)⟩
    cases mode : t.mode with
    | commonJs => exact syncNotGate legacy mode result trivial
    | esm =>
      rw [processMismatched legacy mode] at result
      cases result
  mismatch entry mode := by
    constructor
    · intro result
      by_cases legacy : t.TakesSvelte3 o
      · cases mode : t.mode with
        | commonJs => exact (syncNotGate legacy mode result trivial).elim
        | esm =>
          rw [processMismatched legacy mode] at result
          cases result
          exact ⟨rfl, rfl, legacy, rfl⟩
      · rw [processModern legacy] at result
        cases result
    · rintro ⟨rfl, rfl, legacy, esm⟩
      exact congrArg Run.result (processMismatched legacy esm)
  nothing closed := by
    by_cases legacy : t.TakesSvelte3 o
    · have esm := closed.resolve_left (not_not_intro legacy)
      exact congrArg Run.events (processMismatched legacy esm)
    · exact congrArg Run.events (processModern legacy)
  passed := workerPasses

theorem asyncLaw [Inhabited Definition] (t : Transformer Definition) (source : String)
    (file : Path) (o : Options) : t.AsyncLaw source file o (t.processAsync source file o) where
  mismatch entry mode := by
    constructor
    · intro result
      cases mode : t.mode with
      | commonJs =>
        rw [asyncMismatched mode] at result
        cases result
        exact ⟨rfl, rfl, rfl⟩
      | esm => exact (asyncNotGate mode result trivial).elim
    · rintro ⟨rfl, rfl, commonJs⟩
      exact congrArg Run.result (asyncMismatched commonJs)
  nothing commonJs := congrArg Run.events (asyncMismatched commonJs)
  passed := loaderPasses

/-- Both entries keep their law, whatever the compiler, the files, the worker, the loader and the
preprocessor do. -/
theorem effects [Inhabited Definition] (t : Transformer Definition) (source : String) (file : Path)
    (o : Options) : t.SyncLaw source file o (t.process source file o) ∧
      t.AsyncLaw source file o (t.processAsync source file o) :=
  ⟨t.syncLaw source file o, t.asyncLaw source file o⟩

end Transformer
end SvelteTransform
