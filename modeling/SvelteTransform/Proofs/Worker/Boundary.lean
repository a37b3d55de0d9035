import SvelteTransform.Proofs.Worker.Codec
import SvelteTransform.Worker.Answer

/-! A request that goes to another process comes to the worker as it was, and the response that
comes back is the one that the worker's preprocessor gave. -/
namespace SvelteTransform.Worker
open Text (Bytes utf8)

theorem pathSpelled (p : Path) : Path.ofString p.toString = p := by
  rw [Path.toString, Path.ofString, String.toList_ofList]

theorem flagSpelled (flag : Bool) : decide (some (Request.flagText flag) = some "true") = flag := by
  cases flag <;> rfl

theorem requestRead (inherited : Environment) (r : Request) :
    Request.ofEnvironment (inherited.overlay r.toVariables) = .ok r := by
  have overridden : Request.ofEnvironment (inherited.overlay r.toVariables) =
      .ok ⟨r.source, .ofString r.filename.toString, .ofString r.config.toString,
        some (Request.flagText r.showLog) = some "true"⟩ := rfl
  rw [overridden, pathSpelled, pathSpelled, flagSpelled]

section
variable {Definition : Type} [Inhabited Definition]

theorem writeUnlimited {out : Writer} (unlimited : out.room = none) (bytes : Bytes) :
    out.write bytes = (.ok (), { out with written := out.written ++ bytes }) := by
  rw [Writer.write, unlimited]

theorem respondUnlimited {out : Writer} (unlimited : out.room = none) (response : Response) :
    respond response out =
      (.ok (), { out with
        written := out.written ++ utf8 (response.line ++ ['\n'])
        flushes := out.flushes + 1 }) := by
  rw [respond, Writer.writeAll, writeUnlimited unlimited, Text.utf8Append, ← List.append_assoc]
  simp only [Writer.writeAll, writeUnlimited, unlimited]
  rfl

theorem answerQuiet {r : Request} (quiet : r.showLog = false) {out : Writer}
    (unlimited : out.room = none) (load : ConfigLoader Definition)
    (p : Preprocessor Definition) :
    answer r load p out = match load r.config with
      | .error error => (.error (.config error), out)
      | .ok config => match p.result r.source r.filename (config.preprocess.getD default) with
        | .error message => (.error (.preprocess message), out)
        | .ok response => (.ok (), { out with
            written := out.written ++ utf8 (response.line ++ ['\n'])
            flushes := out.flushes + 1 }) := by
  rw [answer]
  cases load r.config with
  | error error => rfl
  | ok config =>
    simp only [preprocess, quiet, Bool.false_eq_true, if_false, LoadedConfig.definition]
    cases p.result r.source r.filename (config.preprocess.getD default) with
    | error message => rfl
    | ok response => simp only [respondUnlimited unlimited]

theorem decodedLine (response : Response) :
    decoded (utf8 (response.line ++ ['\n'])) = "" ++ response.toLine ++ "\n" := by
  rw [decoded, Text.lossyEncoded, String.ofList_append, String.empty_append]
  rfl

theorem lineCrosses {response : OrderedResponse} (whole : response.writtenMap.isWhole = true)
    (fits : response.writtenMap.nesting ≤ Response.mapRoom) :
    Response.ofOutput (decoded (utf8 (response.line ++ ['\n']))) =
      .ok ⟨response.code, response.map.bind Response.mapOf⟩ := by
  rw [decodedLine,
    Response.blanksAround response.toResponse "" "\n" Response.nothingBlank Response.newlineBlank,
    Response.shallowReadBack whole fits]
  rfl

/-- Whatever environment the worker inherits and whatever is logged in it, it reads the request it
was sent, and what it writes is read as the response that the preprocessor gave. -/
theorem sameAcrossProcesses (r : Request) (inherited : Environment) :
    Request.ofEnvironment (inherited.overlay r.toVariables) = .ok r ∧
    ∀ (load : ConfigLoader Definition) (p : Preprocessor Definition)
      (config : LoadedConfig Definition) (response : OrderedResponse),
      r.showLog = false → load r.config = .ok config →
      p.result r.source r.filename (config.preprocess.getD default) = .ok response.toResponse →
      response.writtenMap.isWhole = true → response.writtenMap.nesting ≤ 126 →
      ∀ out : Writer, out.room = none → ∃ bytes,
        answerFrom (inherited.overlay r.toVariables) load p out =
          (.ok (), { out with written := out.written ++ bytes, flushes := out.flushes + 1 }) ∧
        Response.ofOutput (decoded bytes) =
          .ok ⟨response.code, response.map.bind Response.mapOf⟩ := by
  refine ⟨requestRead inherited r, ?_⟩
  intro load p config response quiet loaded given whole fits out unlimited
  refine ⟨utf8 (response.line ++ ['\n']), ?_, lineCrosses whole fits⟩
  simp only [answerFrom, requestRead, answerQuiet quiet unlimited, loaded, given]

end

def noisy : Preprocessor String where
  logged _ _ _ := ["noise"]
  result source _ map := .ok ⟨source, some (.string map)⟩

theorem staleVariablesOverridden :
    ∃ bytes, answerFrom (Environment.overlay (fun _ => some "true")
        (Request.toVariables ⟨"a\n", ⟨['b']⟩, ⟨['c']⟩, false⟩))
        (fun _ => .ok ⟨none⟩) noisy .unlimited =
        (.ok (), { Writer.unlimited with written := bytes, flushes := 1 }) ∧
      Response.ofOutput (decoded bytes) = .ok ⟨"a\n", some (.string "")⟩ :=
  (sameAcrossProcesses ⟨"a\n", ⟨['b']⟩, ⟨['c']⟩, false⟩ fun _ => some "true").2 _ _ ⟨none⟩
    ⟨⟨"a\n", some (.string "")⟩, trivial⟩ rfl rfl rfl rfl (by decide) .unlimited rfl

end SvelteTransform.Worker
