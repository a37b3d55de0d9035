import SvelteTransform.CommandLine.Run
import SvelteTransform.Proofs.Json.Grammar.Denoted
import SvelteTransform.Proofs.Worker.Accepted
import SvelteTransform.Proofs.Worker.Codec
import SvelteTransform.Proofs.Worker.Outcome

/-! Reading brings a response into its normal form, and writing it and reading it again changes
nothing more. So its line stands for it: the line that the command line prints is read as what the
worker answered, and responses that are read are the same if and only if their lines are. -/
namespace SvelteTransform.Worker
open Json

namespace Response

structure Normal (p : Response) : Prop where
  present : p.map ≠ some .null
  ordered : p.writtenMap.Ordered
  shallow : p.writtenMap.nesting ≤ 126

theorem givenMapNormal {values : List Tree} {map : Option Json} (gives : GivesMap values map)
    (code : String) : Normal ⟨code, map⟩ := by
  cases gives with
  | missing | null => exact ⟨nofun, trivial, Nat.zero_le _⟩
  | value shallow denotes present =>
    exact ⟨fun isNull => present (Option.some.inj isNull), denotesOrdered denotes,
      Nat.le_trans (denotesNesting denotes) shallow⟩

theorem givenNormal {tree : Tree} {p : Response} (gives : Gives tree p) : p.Normal := by
  cases gives with
  | members named once paired mapped => exact givenMapNormal mapped _
  | places paired mapped => exact givenMapNormal mapped _

theorem acceptedNormal {output : String} {p : Response} (ok : ofOutput output = .ok p) :
    p.Normal := by
  have stands := acceptedStands.mp ok
  generalize output.toList = text at stands
  obtain ⟨-, -, -, -, gives⟩ := stands
  exact givenNormal gives

section
variable {p q : Response} (normal : p.Normal) (whole : p.writtenMap.isWhole = true)
include normal whole

theorem Normal.readAgain : ofOutput p.toLine = .ok p := by
  have same : p.map.bind mapOf = p.map := by
    cases there : p.map with
    | none => rfl
    | some v => exact mapOfValue fun isNull => normal.present (by rw [there, isNull])
  have read := @shallowReadBack ⟨p, normal.ordered⟩ whole normal.shallow
  rw [same] at read
  exact read

theorem Normal.readFromLine : ofOutput (p.toLine ++ "\n") = .ok p := by
  have same := blanksAround p "" "\n" nothingBlank newlineBlank
  rw [normal.readAgain whole, String.empty_append] at same
  exact same

theorem Normal.toldByLine (alsoNormal : q.Normal) (alsoWhole : q.writtenMap.isWhole = true) :
    p.toLine = q.toLine ↔ p = q := by
  refine ⟨fun same => ?_, congrArg toLine⟩
  have read := normal.readAgain whole
  rw [same, alsoNormal.readAgain alsoWhole] at read
  exact (Except.ok.inj read).symm

end

end Response

theorem outcomeRead {program : String} {limit : Nat} {worker : Finished} {p : Response}
    (ok : outcome program limit worker = .ok p) :
    ∃ output, worker.output? limit = some output ∧ Response.ofOutput output = .ok p := by
  unfold outcome at ok
  split at ok
  · cases ok
  · cases ok
  · rename_i captured
    split at ok
    · rename_i succeeded
      refine ⟨_, ?_, ok⟩
      simp only [Finished.output?, captured, if_pos succeeded]
    · cases ok

theorem Runner.resultRead {σ : Type} {machine : Machine (StateM σ)} {runner : Runner}
    {request : Request} {before : σ} {limit : Nat} {p : Response}
    (ok : result machine runner request before limit = .ok p) :
    ∃ command worker output, Spawned machine runner request before limit command worker ∧
      worker.output? limit = some output ∧ Response.ofOutput output = .ok p := by
  rw [resultGiven] at ok
  split at ok
  · cases ok
  · rename_i command found isCommand
    split at ok
    · cases ok
    · rename_i worker finished
      obtain ⟨output, printed, read⟩ := outcomeRead ok
      exact ⟨command, worker, output, ⟨found, isCommand, finished⟩, printed, read⟩

end SvelteTransform.Worker

namespace SvelteTransform.CommandLine
open Worker (Response Request Runner runBind)

def Printed {σ : Type} (s : Surroundings (StateM σ)) (a : PreprocessArguments) (output : String) :
    Prop :=
  ∃ (request : Request) (before : σ) (command : Worker.Command) (worker : Worker.Finished),
    request.filename = a.config.file ∧ request.showLog = a.showLog ∧
    Runner.Spawned s.machine (.node a.node) request before a.maxBuffer command worker ∧
    worker.output? a.maxBuffer = some output

section
variable {σ : Type} {s : Surroundings (StateM σ)} {a : PreprocessArguments} {before : σ}

theorem preprocessFileRead {p : Response} (ok : ((preprocessFile s a).run before).1 = .ok p) :
    ∃ output, Printed s a output ∧ Response.ofOutput output = .ok p := by
  rw [preprocessFile, runBind] at ok
  match readText : (s.readText a.config.file).run before with
  | (none, _) =>
    rw [readText] at ok
    cases ok
  | (some source, afterRead) =>
    rw [readText] at ok
    dsimp only at ok
    rw [runBind] at ok
    match resolved : (resolveConfig s a.config).run afterRead with
    | (.error failure, _) =>
      rw [resolved] at ok
      cases ok
    | (.ok config, afterResolve) =>
      rw [resolved] at ok
      dsimp only at ok
      let request : Request := ⟨source, a.config.file, config, a.showLog⟩
      change (Runner.result s.machine (.node a.node) request afterResolve a.maxBuffer).mapError
        Failure.worker = .ok p at ok
      cases result : Runner.result s.machine (.node a.node) request afterResolve a.maxBuffer with
      | error failure =>
        rw [result] at ok
        cases ok
      | ok q =>
        rw [result] at ok
        cases ok
        obtain ⟨command, worker, output, spawned, printed, read⟩ := Runner.resultRead result
        exact ⟨output, ⟨request, afterResolve, command, worker, rfl, rfl, spawned, printed⟩, read⟩

theorem executeRead {line : String}
    (ok : ((execute s (.preprocess a)).run before).1 = .ok line) :
    ∃ output p, Printed s a output ∧ Response.ofOutput output = .ok p ∧ line = p.toLine := by
  rw [execute, runBind] at ok
  cases answered : ((preprocessFile s a).run before).1 with
  | error failure =>
    rw [answered] at ok
    cases ok
  | ok p =>
    rw [answered] at ok
    cases ok
    obtain ⟨output, printed, read⟩ := preprocessFileRead answered
    exact ⟨output, p, printed, read, rfl⟩

theorem runRead {arguments : List String} (asked : parse arguments = .ok (.preprocess a))
    (succeeded : ((run s arguments).run before).1.exit = 0) :
    ∃ output p, Printed ((withLogging s).run before).1 a output ∧
      Response.ofOutput output = .ok p ∧
      ((run s arguments).run before).1.stdout = p.toLine ++ "\n" := by
  rw [run, runBind] at succeeded ⊢
  simp only [asked] at succeeded ⊢
  rw [runBind] at succeeded ⊢
  cases executed : ((execute ((withLogging s).run before).1 (.preprocess a)).run
      ((withLogging s).run before).2).1 with
  | error failure =>
    rw [executed] at succeeded
    cases succeeded
  | ok line =>
    obtain ⟨output, p, printed, read, rfl⟩ := executeRead executed
    exact ⟨output, p, printed, read, rfl⟩

end
end SvelteTransform.CommandLine

namespace SvelteTransform.Worker.Response

/-- Every response that is read has no `null` for a map and nests no deeper than its line may. The
line gives it back, also when the command line prints it, and no other response has that line. -/
theorem readOnce :
    (∀ output p, ofOutput output = .ok p → p.map ≠ some .null ∧ p.writtenMap.nesting ≤ 126 ∧
      (p.writtenMap.isWhole = true → ofOutput p.toLine = .ok p)) ∧
    (∀ (σ : Type) (s : CommandLine.Surroundings (StateM σ)) (arguments : List String)
      (a : CommandLine.PreprocessArguments) (before : σ),
      CommandLine.parse arguments = .ok (.preprocess a) →
      ((CommandLine.run s arguments).run before).1.exit = 0 →
      ∃ output p, CommandLine.Printed ((CommandLine.withLogging s).run before).1 a output ∧
        ofOutput output = .ok p ∧
        ((CommandLine.run s arguments).run before).1.stdout = p.toLine ++ "\n" ∧
        (p.writtenMap.isWhole = true →
          ofOutput ((CommandLine.run s arguments).run before).1.stdout = .ok p)) ∧
    (∀ first second p q, ofOutput first = .ok p → ofOutput second = .ok q →
      p.writtenMap.isWhole = true → q.writtenMap.isWhole = true →
      (p.toLine = q.toLine ↔ p = q)) := by
  refine ⟨fun output p ok => ?_, fun σ s arguments a before asked succeeded => ?_,
    fun first second p q okFirst okSecond wholeFirst wholeSecond => ?_⟩
  · have normal := acceptedNormal ok
    exact ⟨normal.present, normal.shallow, normal.readAgain⟩
  · obtain ⟨output, p, printed, read, line⟩ := CommandLine.runRead asked succeeded
    refine ⟨output, p, printed, read, line, fun whole => ?_⟩
    rw [line]
    exact (acceptedNormal read).readFromLine whole
  · exact (acceptedNormal okFirst).toldByLine wholeFirst (acceptedNormal okSecond) wholeSecond

theorem placesForgotten :
    ofOutput "[\"a\\u000a\", [1, []]]\n" = .ok ⟨"a\n", some (.array [.ofNat 1, .array []])⟩ ∧
    toLine ⟨"a\n", some (.array [.ofNat 1, .array []])⟩ =
      "\x7b\"code\":\"a\\n\",\"map\":[1,[]]\x7d" ∧
    ofOutput "\x7b\"code\":\"a\\n\",\"map\":[1,[]]\x7d" =
      .ok ⟨"a\n", some (.array [.ofNat 1, .array []])⟩ := by
  have line : toLine ⟨"a\n", some (.array [.ofNat 1, .array []])⟩ =
      "\x7b\"code\":\"a\\n\",\"map\":[1,[]]\x7d" := by rfl
  have again := (readOnce.1 "[\"a\\u000a\", [1, []]]\n"
    ⟨"a\n", some (.array [.ofNat 1, .array []])⟩ (by rfl)).2.2 rfl
  rw [line] at again
  exact ⟨by rfl, line, again⟩

end SvelteTransform.Worker.Response
