import SvelteTransform.Proofs.Json.Brackets.Printer
import SvelteTransform.Proofs.Json.Brackets.Readers
import SvelteTransform.Proofs.Text.Utf8
import SvelteTransform.Worker.Capture

/-! A response is read from everything a worker printed. A text that is accepted is one bracket
from end to end, and so is every line that is written: so no other text can stand beside a line,
and no part of a line can stand for it. -/
namespace SvelteTransform.Worker.Response
open Json Json.Reader Json.Brackets Text

theorem finishedBlank {s : List Char} (ok : finished s = .ok ()) : Blank s := by
  unfold finished at ok
  split at ok
  · rename_i nothing
    obtain ⟨blanks, parts, spaces⟩ := skipSpaceParts s
    rw [nothing, List.append_nil] at parts
    intro c member
    exact spaceBlank (spaces c (parts ▸ member))
  · exact (refuseNextNotOk.mp ok).elim

theorem codeFieldCloses : FieldCloses codeField := stringFieldCloses "code"
theorem mapFieldCloses : FieldCloses mapField := anyFieldCloses "map" mapRoom

theorem ofObjectCloses {fuel : Nat} {s rest : List Char} {r : Response}
    (ok : ofObject fuel s = .ok (r, rest)) : Closes .outside s ('\x7d' :: rest) := by
  obtain ⟨⟨found, t⟩, read, ok⟩ := bindOk.mp ok
  have known : ∀ field ∈ [codeField, mapField], FieldCloses field := by
    simp only [List.forall_mem_cons, List.not_mem_nil, false_implies, implies_true, and_true]
    exact ⟨codeFieldCloses, mapFieldCloses⟩
  dsimp only at ok
  split at ok
  · cases ok
    exact fieldsClose known read
  · exact (refuseNotOk.mp ok).elim

theorem ofArrayCloses {fuel : Nat} {s rest : List Char} {r : Response}
    (ok : ofArray fuel s = .ok (r, rest)) : Closes .outside s (']' :: rest) := by
  unfold ofArray at ok
  split at ok
  · exact (refuseNotOk.mp ok).elim
  · exact (refuseNotOk.mp ok).elim
  · obtain ⟨⟨code, t⟩, read, ok⟩ := bindOk.mp ok
    refine (closesSpace s).trans ((stringValueCloses read).trans ?_)
    dsimp only at ok
    split at ok
    · exact (refuseNotOk.mp ok).elim
    · rename_i skipped
      cases ok
      exact closesSkipped skipped (closesNothing _)
    · rename_i u skipped
      refine closesSkipped skipped (closesStep (stepPlain (by rfl) 0) ?_)
      split at ok
      · exact (refuseNotOk.mp ok).elim
      · exact (refuseNextNotOk.mp ok).elim
      · obtain ⟨⟨map, w⟩, read, ok⟩ := bindOk.mp ok
        obtain ⟨x, closed, ok⟩ := bindOk.mp ok
        cases ok
        exact (closesSpace _).trans ((mapFieldCloses read).trans (closeListCloses closed))
    · exact (refuseNextNotOk.mp ok).elim

theorem enclosedOfTrimmed (closing : Char) {opening : Char} {s rest : List Char}
    (opens : isOpening opening = true) (closes : isClosing closing = true)
    (inner : Closes .outside s (closing :: rest)) (blank : Blank rest)
    (trimmed : Trimmed (opening :: s)) : Enclosed (opening :: s) := by
  have nothing : rest = [] := by
    cases List.eq_nil_or_concat rest with
    | inl nothing => exact nothing
    | inr something =>
      obtain ⟨more, last, rfl⟩ := something
      obtain ⟨used, rfl, _⟩ := inner
      have solid := trimmed.last last (by simp [List.getLast?_cons, List.getLast?_append])
      rw [blank last (by simp)] at solid
      contradiction
  subst nothing
  exact enclosedOfCloses opens closes inner

theorem readEnclosed {text : List Char} {r : Response} (trimmed : Trimmed text)
    (ok : read text = .ok r) : Enclosed text := by
  have solid : skipSpace text = text := by
    refine dropWhileNone fun c head => ?_
    have notBlank := trimmed.first c head
    exact Bool.eq_false_iff.mpr fun space => by simp [spaceBlank space] at notBlank
  unfold Response.read at ok
  rw [solid] at ok
  split at ok
  · exact (refuseNotOk.mp ok).elim
  · obtain ⟨⟨p, rest⟩, inner, ok⟩ := bindOk.mp ok
    obtain ⟨⟨⟩, done, _⟩ := bindOk.mp ok
    exact enclosedOfTrimmed ']' rfl rfl (ofArrayCloses inner) (finishedBlank done) trimmed
  · obtain ⟨⟨p, rest⟩, inner, ok⟩ := bindOk.mp ok
    obtain ⟨⟨⟩, done, _⟩ := bindOk.mp ok
    exact enclosedOfTrimmed '\x7d' rfl rfl (ofObjectCloses inner) (finishedBlank done)
      trimmed
  · obtain ⟨_, _, ok⟩ := bindOk.mp ok
    exact (refuseNotOk.mp ok).elim

theorem lineCloses (r : Response) : ∃ body, r.line = '\x7b' :: (body ++ ['\x7d']) ∧
    run ⟨.outside, 0⟩ body = some ⟨.outside, 0⟩ := by
  have inner := (stringTextCloses "code" _).trans (closesStep (stepPlain (c := ':') (by rfl) 0)
    ((textCloses (.string r.code) _).trans (membersTextCloses [("map", r.map.getD .null)] [])))
  obtain ⟨body, parts, ran⟩ := inner
  refine ⟨body, ?_, ran⟩
  rw [← parts, List.append_nil]
  rfl

theorem lineParts (r : Response) : ∃ body, r.line = '\x7b' :: '"' :: 'c' :: (body ++ ['\x7d']) ∧
    run ⟨.outside, 0⟩ ('"' :: 'c' :: body) = some ⟨.outside, 0⟩ := by
  obtain ⟨body, parts, ran⟩ := lineCloses r
  have starts : ∃ more, r.line = '\x7b' :: '"' :: 'c' :: 'o' :: more := ⟨_, rfl⟩
  obtain ⟨more, starts⟩ := starts
  rw [parts, List.cons.injEq] at starts
  match body, starts.2 with
  | [], same => cases same
  | [_], same => cases same
  | _ :: _ :: body, same =>
    simp only [List.cons_append, List.cons.injEq] at same
    obtain ⟨rfl, rfl, _⟩ := same
    exact ⟨body, parts, ran⟩

theorem lineEnclosed (r : Response) : Enclosed r.line := by
  obtain ⟨body, parts, ran⟩ := lineCloses r
  exact ⟨'\x7b', body, '\x7d', parts, rfl, rfl, ran⟩

theorem lineTrimmed (r : Response) : Trimmed r.line := by
  obtain ⟨body, parts, _⟩ := lineCloses r
  rw [parts]
  refine ⟨fun c head => ?_, fun c last => ?_⟩
  · cases head
    rfl
  · rw [← List.cons_append, List.getLast?_concat] at last
    cases last
    rfl

theorem lineNonempty (r : Response) : r.line ≠ [] := by
  obtain ⟨body, parts, _⟩ := lineCloses r
  rw [parts]
  exact List.cons_ne_nil _ _

theorem toLineChars (r : Response) : r.toLine.toList = r.line := String.toList_ofList

theorem ofOutputAround {left text right : List Char} (leftBlank : Blank left)
    (rightBlank : Blank right) (trimmed : Trimmed text) (output : String)
    (parts : output.toList = left ++ text ++ right) :
    ofOutput output = match read text with
      | .ok r => .ok r
      | .error fault => .error (.protocol (fault.message text) output) := by
  have spelled : ofOutput output = match read (trim output.toList) with
      | .ok r => .ok r
      | .error fault => .error (.protocol (fault.message (trim output.toList)) output) := rfl
  rw [spelled, parts, trimAround leftBlank rightBlank trimmed]

theorem ofOutputFails {output : String} (refused : ∀ p, ofOutput output ≠ .ok p) :
    ∃ message, ofOutput output = .error (.protocol message output) := by
  cases result : read (trim output.toList) with
  | ok p => exact absurd (by simp only [ofOutput, result]) (refused p)
  | error fault => exact ⟨_, by simp only [ofOutput, result]; rfl⟩

theorem acceptedEnclosed {output : String} {p : Response} (ok : ofOutput output = .ok p) :
    ∃ left text right, output.toList = left ++ text ++ right ∧ Blank left ∧ Blank right ∧
      Enclosed text := by
  obtain ⟨left, right, parts, leftBlank, rightBlank, trimmed⟩ := trimParts output.toList
  refine ⟨left, _, right, parts, leftBlank, rightBlank, ?_⟩
  rw [ofOutputAround leftBlank rightBlank trimmed _ parts] at ok
  split at ok
  · rename_i p read
    exact readEnclosed trimmed read
  · cases ok

theorem nothingBefore {r p : Response} {before : List Char}
    (solid : ∀ c, before.head? = some c → isBlank c = false)
    (ok : read (before ++ r.line) = .ok p) : before = [] := by
  obtain ⟨body, parts, ran⟩ := lineParts r
  have whole := readEnclosed ((lineTrimmed r).after (lineNonempty r) solid) ok
  rw [parts] at whole
  exact Enclosed.notBegun rfl (fun _ => rfl) ran whole

theorem nothingAfter {r p : Response} {after : List Char}
    (solid : ∀ c, after.getLast? = some c → isBlank c = false)
    (ok : read (r.line ++ after) = .ok p) : after = [] :=
  (lineEnclosed r).notExtended (readEnclosed ((lineTrimmed r).before (lineNonempty r) solid) ok)

theorem newlineBlank : Blank "\n".toList := by decide

theorem nothingBlank : Blank [] := by decide

theorem blankBefore {r p : Response} {before : String}
    (ok : ofOutput (before ++ r.toLine ++ "\n") = .ok p) : Blank before.toList := by
  obtain ⟨left, parts, blank, solid⟩ := trimLeftParts before.toList
  generalize trimLeft before.toList = front at parts solid
  have chars : (before ++ r.toLine ++ "\n").toList = left ++ (front ++ r.line) ++ "\n".toList := by
    simp only [String.toList_append, toLineChars, parts, List.append_assoc]
  have trimmed := (lineTrimmed r).after (lineNonempty r) solid
  rw [ofOutputAround blank newlineBlank trimmed _ chars] at ok
  split at ok
  · rename_i read
    rw [parts, nothingBefore solid read, List.append_nil]
    exact blank
  · cases ok

theorem blankAfter {r p : Response} {after : String}
    (ok : ofOutput (r.toLine ++ after) = .ok p) : Blank after.toList := by
  obtain ⟨right, parts, blank, solid⟩ := trimRightParts after.toList
  generalize trimRight after.toList = back at parts solid
  have chars : (r.toLine ++ after).toList = [] ++ (r.line ++ back) ++ right := by
    simp only [String.toList_append, toLineChars, parts, List.append_assoc, List.nil_append]
  have trimmed := (lineTrimmed r).before (lineNonempty r) solid
  rw [ofOutputAround nothingBlank blank trimmed _ chars] at ok
  split at ok
  · rename_i read
    rw [parts, nothingAfter solid read, List.nil_append]
    exact blank
  · cases ok

def failureIn (output : String) : Failure → Failure
  | .protocol message _ => .protocol message output
  | failure => failure

theorem blanksAround (r : Response) (before after : String) (left : Blank before.toList)
    (right : Blank after.toList) :
    ofOutput (before ++ r.toLine ++ after) =
      (ofOutput r.toLine).mapError (failureIn (before ++ r.toLine ++ after)) := by
  have alone := ofOutputAround nothingBlank nothingBlank (lineTrimmed r) r.toLine
    (by simp only [toLineChars, List.nil_append, List.append_nil])
  have inside := ofOutputAround left right (lineTrimmed r) (before ++ r.toLine ++ after)
    (by simp only [String.toList_append, toLineChars])
  rw [alone, inside]
  cases read r.line <;> rfl

/-- A line is accepted among blanks as it is alone, and beside anything else it is not accepted. -/
theorem onlyBlanksBesideLine (r : Response) :
    (∀ before : String,
      (Blank before.toList → ofOutput (before ++ r.toLine ++ "\n") =
        (ofOutput r.toLine).mapError (failureIn (before ++ r.toLine ++ "\n"))) ∧
      (¬ Blank before.toList → ∃ message, ofOutput (before ++ r.toLine ++ "\n") =
        .error (.protocol message (before ++ r.toLine ++ "\n")))) ∧
    ∀ p, ofOutput r.toLine = .ok p → ∀ after : String,
      (Blank after.toList → ofOutput (r.toLine ++ after) = .ok p) ∧
      ((∃ q, ofOutput (r.toLine ++ after) = .ok q) → Blank after.toList) := by
  refine ⟨fun before => ⟨fun blank => ?_, fun stray => ?_⟩, ?_⟩
  · exact blanksAround r before "\n" blank newlineBlank
  · exact ofOutputFails fun p ok => stray (blankBefore ok)
  · intro p accepted after
    refine ⟨fun blank => ?_, fun ⟨q, ok⟩ => blankAfter ok⟩
    have same := blanksAround r "" after nothingBlank blank
    rw [accepted, String.empty_append] at same
    exact same

theorem cutNotAccepted {r p : Response} {bytes : Bytes} (cut : bytes <+: utf8 r.line)
    (ok : ofOutput (decoded bytes) = .ok p) : bytes = utf8 r.line := by
  obtain ⟨left, text, right, chars, leftBlank, rightBlank, enclosed⟩ := acceptedEnclosed ok
  rw [decoded, String.toList_ofList] at chars
  obtain ⟨whole, rest, parts, ⟨same, read⟩ | ⟨_, read⟩⟩ := lossyPrefix cut
  · rw [read] at chars
    have starts : r.line.head? = (left ++ (text ++ (right ++ rest))).head? := by
      rw [parts, chars]
      simp only [List.append_assoc]
    cases left with
    | cons c left =>
      have solid := (lineTrimmed r).first c starts
      rw [leftBlank c List.mem_cons_self] at solid
      contradiction
    | nil =>
      have line : r.line = text ++ (right ++ rest) := by
        rw [parts, chars, List.nil_append, List.append_assoc]
      have nothing := enclosed.notExtended (line ▸ lineEnclosed r)
      rw [same, parts, (List.append_eq_nil_iff.mp nothing).2, List.append_nil]
  · rw [read] at chars
    have marked : (left ++ text ++ right).getLast? = some replacement := by
      rw [← chars, List.getLast?_concat]
    obtain ⟨last, ends, closes⟩ := enclosed.ends
    rw [List.getLast?_append, List.getLast?_append, ends] at marked
    cases rightEnd : right.getLast? with
    | none =>
      rw [rightEnd] at marked
      cases marked
      contradiction
    | some c =>
      have blank := rightBlank c (List.mem_of_getLast? rightEnd)
      rw [rightEnd] at marked
      cases marked
      contradiction

/-- No part of a line is accepted, nor is anything up to its end that does not have all of it. -/
theorem cutLineRefused (r : Response) (bytes : Bytes) :
    (bytes <+: utf8 r.line ∧ bytes ≠ utf8 r.line →
      ∃ message, ofOutput (decoded bytes) = .error (.protocol message (decoded bytes))) ∧
    (bytes <+: utf8 (r.line ++ ['\n']) → (∃ p, ofOutput (decoded bytes) = .ok p) →
      utf8 r.line <+: bytes) := by
  refine ⟨fun ⟨cut, proper⟩ => ofOutputFails fun p ok => proper (cutNotAccepted cut ok), ?_⟩
  intro cut ⟨p, ok⟩
  have line : utf8 r.line <+: utf8 (r.line ++ ['\n']) := by
    rw [utf8Append]
    exact List.prefix_append _ _
  rcases Nat.le_total bytes.length (utf8 r.line).length with short | long
  · have same := cutNotAccepted (List.prefix_of_prefix_length_le cut line short) ok
    exact same ▸ List.prefix_refl bytes
  · exact List.prefix_of_prefix_length_le line cut long

end SvelteTransform.Worker.Response
