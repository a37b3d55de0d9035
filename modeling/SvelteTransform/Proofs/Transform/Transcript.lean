import Mathlib.Data.List.Forall2
import SvelteTransform.Proofs.Transform.Effects

/-! What a transcript holds that transformations report to one after the other. Each adds lines of
its own, told by its options and by what came of it, behind those that are there. Every line is on
one channel, where the lines keep their order. -/
namespace SvelteTransform

structure Call where
  Definition : Type
  [inhabited : Inhabited Definition]
  transformer : Transformer Definition
  entry : Entry
  source : String
  file : Path
  options : Options

attribute [instance] Call.inhabited

def Call.run (c : Call) : Run Compile.Result :=
  match c.entry with
  | .sync => c.transformer.process c.source c.file c.options
  | .async => c.transformer.processAsync c.source c.file c.options

namespace Transcript

def after (t : Transcript) (c : Call) : Transcript := t.reportAll c.run.lines

def ofCalls (calls : List Call) : Transcript := calls.foldl after empty

end Transcript

def announced (entry : Entry) (debug : Bool) : List Line :=
  if debug then [⟨.debug, Transformer.announcement entry⟩] else []

inductive Segment (entry : Entry) (debug : Bool) :
    Except TransformError Compile.Result → List Line → Prop where
  | stopped {error} (gate : Transformer.IsGate error) : Segment entry debug (.error error) []
  | failed {error} (passed : ¬ Transformer.IsGate error) (other : ∀ e, error ≠ .compile e) :
      Segment entry debug (.error error) (announced entry debug)
  | framed {error : Compile.Error} {frame} (excerpt : error.frame = some frame) :
      Segment entry debug (.error (.compile error))
        (announced entry debug ++ [⟨.error, error.message ++ "\n" ++ frame⟩])
  | unframed {error : Compile.Error} (frameless : error.frame = none) :
      Segment entry debug (.error (.compile error))
        (announced entry debug ++ [⟨.error, error.message⟩])
  | quiet {r} (off : debug = false) : Segment entry debug (.ok r) []
  | shown {r} (on : debug = true)
      (marked : entry = .sync → ∃ code, r.code = code ++ Compile.esInterop) :
      Segment entry debug (.ok r) (announced entry debug ++ [⟨.log, r.code⟩])

structure Channelled (t : Transcript) : Prop where
  inOrder : ∀ c, ((t.channel c).map (Line.mk c)).Sublist t.lines
  once : t.lines.Perm ([.log, .debug, .error].flatMap fun c => (t.channel c).map (Line.mk c))

theorem linesAppend {α : Type} (first second : List Event) (result : Except TransformError α) :
    Run.lines ⟨first ++ second, result⟩ =
      Run.lines ⟨first, result⟩ ++ Run.lines ⟨second, result⟩ :=
  List.filterMap_append

theorem linesOther {α : Type} {events : List Event} (other : ∀ e ∈ events, e.kind ≠ .report)
    (result : Except TransformError α) : Run.lines ⟨events, result⟩ = [] := by
  refine List.filterMap_eq_nil_iff.mpr fun e member => ?_
  cases e with
  | report line => exact absurd rfl (other _ member)
  | _ => rfl

theorem callsOther {α : Type} (r : Run α) {kind : Event.Kind} (other : kind ≠ .report) :
    ∀ e ∈ r.calls kind, e.kind ≠ .report := by
  intro e member
  rw [of_decide_eq_true (List.mem_filter.mp member).2]
  exact other

namespace Transformer
variable {Definition : Type} {t : Transformer Definition} {source : String} {file : Path}
  {o : Options} {entry : Entry} {r : Run Compile.Result}

theorem openingLines (o : Options) (entry : Entry) (result : Except TransformError Compile.Result) :
    Run.lines ⟨opening o entry, result⟩ = announced entry o.debug := by
  unfold opening announced
  split <;> rfl

theorem passedLines {preprocesses : Path → Prop}
    (passes : t.Passes source file o r entry preprocesses) :
    r.lines = announced entry o.debug ++ Run.lines ⟨closing o r.result, r.result⟩ := by
  have preprocessing : ∀ e ∈ entry.preprocessing.flatMap r.calls, e.kind ≠ .report := by
    intro e member
    obtain ⟨kind, isKind, among⟩ := List.mem_flatMap.mp member
    exact callsOther r (preprocessingKinds isKind).2.2 e among
  obtain ⟨events, result⟩ := r
  rw [show events = _ from passes.order, linesAppend, linesAppend, linesAppend, linesAppend,
    linesOther (callsOther _ (by decide)), linesOther preprocessing,
    linesOther (callsOther _ (by decide)), openingLines]
  simp only [List.append_nil]

theorem closingSegment {result : Except TransformError Compile.Result}
    (passed : ∀ error, result = .error error → ¬ IsGate error)
    (marked : entry = .sync → ∀ r, result = .ok r → ∃ code, r.code = code ++ Compile.esInterop) :
    Segment entry o.debug result
      (announced entry o.debug ++ Run.lines ⟨closing o result, result⟩) := by
  cases result with
  | ok r =>
    cases debug : o.debug with
    | true =>
      rw [closing, debug]
      exact .shown rfl fun sync => marked sync r rfl
    | false =>
      rw [closing, debug]
      exact .quiet rfl
  | error error =>
    have notGate := passed error rfl
    cases error with
    | compile error =>
      cases excerpt : error.frame with
      | some frame =>
        have reported : error.report = error.message ++ "\n" ++ frame := by
          rw [Compile.Error.report, excerpt]
        rw [closing, reported]
        exact .framed excerpt
      | none =>
        have reported : error.report = error.message := by rw [Compile.Error.report, excerpt]
        rw [closing, reported]
        exact .unframed excerpt
    | _ =>
      rw [closing, show Run.lines ⟨[], _⟩ = [] from rfl, List.append_nil]
      · exact .failed notGate nofun
      · exact nofun

theorem passesSegment {preprocesses : Path → Prop}
    (passes : t.Passes source file o r entry preprocesses)
    (passed : ∀ error, r.result = .error error → ¬ IsGate error)
    (marked : entry = .sync → ∀ result, r.result = .ok result →
      ∃ code, result.code = code ++ Compile.esInterop) :
    Segment entry o.debug r.result r.lines := by
  rw [passedLines passes]
  exact closingSegment passed marked

theorem bindDone {α β : Type} {r : Run α} {next : α → Run β} {b : β}
    (done : (r >>= next).result = .ok b) : ∃ a, (next a).result = .ok b := by
  obtain ⟨events, result⟩ := r
  cases result with
  | error e => cases done
  | ok a => exact ⟨a, done⟩

theorem syncMarked (legacy : t.TakesSvelte3 o) (commonJs : t.mode = .commonJs) {r : Compile.Result}
    (done : (t.process source file o).result = .ok r) :
    ∃ code, r.code = code ++ Compile.esInterop := by
  rw [processOpen legacy commonJs] at done
  -- Whatever the config and the text to compile, the compilation comes last.
  obtain ⟨config, done⟩ := bindDone done
  obtain ⟨p, done⟩ := bindDone done
  rw [compileRun, outcome, commonJs] at done
  cases answer : (t.callCompiler file p.code (t.options file o p.map)).2 with
  | error e =>
    rw [answer] at done
    cases done
  | ok output =>
    rw [answer] at done
    cases done
    exact ⟨output.code, rfl⟩

theorem syncSegment (t : Transformer Definition) (source : String) (file : Path) (o : Options) :
    Segment .sync o.debug (t.process source file o).result (t.process source file o).lines := by
  by_cases legacy : t.TakesSvelte3 o
  · cases mode : t.mode with
    | commonJs =>
      exact passesSegment (workerPasses legacy mode) (fun _ => syncNotGate legacy mode)
        fun _ _ => syncMarked legacy mode
    | esm =>
      rw [processMismatched legacy mode]
      exact .stopped trivial
  · rw [processModern legacy]
    exact .stopped trivial

theorem asyncSegment [Inhabited Definition] (t : Transformer Definition) (source : String)
    (file : Path) (o : Options) : Segment .async o.debug (t.processAsync source file o).result
      (t.processAsync source file o).lines := by
  cases mode : t.mode with
  | commonJs =>
    rw [asyncMismatched mode]
    exact .stopped trivial
  | esm => exact passesSegment (loaderPasses mode) (fun _ => asyncNotGate mode) nofun

end Transformer

theorem callSegment (c : Call) : Segment c.entry c.options.debug c.run.result c.run.lines := by
  unfold Call.run
  cases c.entry with
  | sync => exact c.transformer.syncSegment c.source c.file c.options
  | async => exact c.transformer.asyncSegment c.source c.file c.options

namespace Transcript

theorem reportAllLines (t : Transcript) (lines : List Line) :
    (t.reportAll lines).lines = t.lines ++ lines := by
  induction lines generalizing t with
  | nil => exact (List.append_nil t.lines).symm
  | cons line lines ih => exact (ih (t.report line)).trans (List.append_assoc t.lines [line] lines)

theorem afterLines (t : Transcript) (c : Call) : (t.after c).lines = t.lines ++ c.run.lines :=
  t.reportAllLines c.run.lines

theorem callsLines (t : Transcript) (calls : List Call) :
    (calls.foldl after t).lines = t.lines ++ (calls.map (·.run.lines)).flatten := by
  induction calls generalizing t with
  | nil => exact (List.append_nil t.lines).symm
  | cons c calls ih =>
    rw [List.foldl_cons, ih, afterLines, List.append_assoc, List.map_cons, List.flatten_cons]

theorem channelLines (t : Transcript) (c : Channel) :
    (t.channel c).map (Line.mk c) = t.lines.filter (·.channel = c) := by
  rw [channel, List.map_map]
  refine (List.map_congr_left fun line member => ?_).trans (List.map_id _)
  rw [← of_decide_eq_true (List.mem_filter.mp member).2]
  rfl

theorem countOnChannel (t : Transcript) (c : Channel) (line : Line) :
    (t.lines.filter (·.channel = c)).count line =
      if line.channel = c then t.lines.count line else 0 := by
  split
  · rename_i same
    exact List.count_filter (decide_eq_true same)
  · rename_i other
    refine List.count_eq_zero_of_not_mem fun member => other ?_
    exact of_decide_eq_true (List.mem_filter.mp member).2

theorem channelled (t : Transcript) : Channelled t where
  inOrder c := by
    rw [channelLines]
    exact List.filter_sublist
  once := by
    simp only [List.flatMap_cons, List.flatMap_nil, List.append_nil, channelLines]
    -- A line counts on its own channel as often as in all, and on no other.
    refine List.perm_iff_count.mpr fun line => ?_
    simp only [List.count_append, countOnChannel]
    cases line.channel <;> simp

/-- Calls one after the other, by either entry and with whatever came of them, report each its own
segment and nothing else, and the channels hold every line once. -/
theorem transcribed (calls : List Call) :
    (∃ segments, List.Forall₂ (fun c lines => Segment c.entry c.options.debug c.run.result lines)
        calls segments ∧ (ofCalls calls).lines = segments.flatten) ∧
      Channelled (ofCalls calls) := by
  refine ⟨⟨calls.map (·.run.lines), ?_, ?_⟩, channelled _⟩
  · rw [List.forall₂_map_right_iff, List.forall₂_same]
    exact fun c _ => callSegment c
  · rw [ofCalls, callsLines]
    rfl

end Transcript
end SvelteTransform
