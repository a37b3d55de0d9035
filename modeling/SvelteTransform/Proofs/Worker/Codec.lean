import SvelteTransform.Proofs.Json.Reread.Values
import SvelteTransform.Proofs.Worker.Stream

/-! A line is read back as the response it was written for, as long as its map nests no deeper
than a response may. -/
namespace SvelteTransform.Worker.Response
open Json Json.Reader Text

theorem mapOfWritten (r : Response) : mapOf r.writtenMap = r.map.bind mapOf := by
  obtain ⟨code, _ | map⟩ := r <;> rfl

theorem lineSpelled (r : Response) : r.line = '\x7b' :: (stringText "code" ++ ':' ::
    (stringText r.code ++ ',' :: (stringText "map" ++ ':' :: (r.writtenMap.text ++ ['\x7d'])))) :=
  rfl

section
variable (code : String) {map : Json} (whole : map.isWhole = true)
include whole

theorem fieldsSettle {fuel : Nat} (enough : (map.text ++ ['\x7d']).length ≤ fuel) :
    Settles mapRoom map.nesting
      (fields [codeField, mapField] (fuel + 1) (stringText "code" ++ ':' ::
        (stringText code ++ ',' :: (stringText "map" ++ ':' :: (map.text ++ ['\x7d'])))))
      ([("code", .string code), ("map", settled map)], []) := by
  have ends : Ends ['\x7d'] := membersTextEnds [] []
  have read := valueSettles map whole mapRoom enough ends
  have last : ∀ seen, moreFields [codeField, mapField] fuel seen ['\x7d'] = .ok (seen, []) := by
    intro seen
    obtain ⟨more, rfl⟩ : ∃ more, fuel = more + 1 := by
      rw [List.length_append, List.length_singleton] at enough
      exact ⟨fuel - 1, by omega⟩
    rfl
  rw [fieldsNext, memberKnown codeField rfl rfl, codeField, stringFieldRead]
  simp only [okBind]
  rw [moreFieldsNext, memberKnown mapField rfl rfl]
  refine .bind (a := ([("code", .string code), ("map", settled map)], ['\x7d'])) (.bind read rfl) ?_
  exact last _

end

theorem readSettles {r : Response} (whole : r.writtenMap.isWhole = true) :
    Settles mapRoom r.writtenMap.nesting (read r.line) ⟨r.code, mapOf (settled r.writtenMap)⟩ := by
  have spelled := lineSpelled r
  obtain ⟨fuel, length⟩ : ∃ fuel, r.line.length = fuel + 1 := by
    rw [spelled]
    exact ⟨_, rfl⟩
  have enough : (r.writtenMap.text ++ ['\x7d']).length ≤ fuel := by
    rw [spelled] at length
    simp only [List.length_cons, List.length_append] at length ⊢
    omega
  have found := fieldsSettle r.code whole enough
  rw [← length] at found
  have opens : isSpace '\x7b' = false := rfl
  unfold Response.read
  rw [spelled]
  simp only [skipSpaceSolid opens]
  rw [← spelled]
  exact .bind (a := (⟨r.code, mapOf (settled r.writtenMap)⟩, [])) (.bind found rfl) rfl

theorem ofOutputLine (r : Response) : ofOutput r.toLine = match read r.line with
    | .ok p => .ok p
    | .error fault => .error (.protocol (fault.message r.line) r.toLine) :=
  ofOutputAround nothingBlank nothingBlank (lineTrimmed r) r.toLine (by
    rw [toLineChars, List.nil_append, List.append_nil])

theorem shallowAccepted {r : Response} (whole : r.writtenMap.isWhole = true)
    (fits : r.writtenMap.nesting ≤ mapRoom) :
    ofOutput r.toLine = .ok ⟨r.code, mapOf (settled r.writtenMap)⟩ := by
  rw [ofOutputLine, (readSettles whole).shallow fits]

theorem shallowReadBack {r : OrderedResponse} (whole : r.writtenMap.isWhole = true)
    (fits : r.writtenMap.nesting ≤ mapRoom) :
    ofOutput r.toLine = .ok ⟨r.code, r.map.bind mapOf⟩ := by
  rw [shallowAccepted whole fits, settledSame _ r.ordered, mapOfWritten]

theorem deepRefused {r : Response} (whole : r.writtenMap.isWhole = true)
    (deep : mapRoom < r.writtenMap.nesting) :
    ∃ message, ofOutput r.toLine = .error (.protocol message r.toLine) := by
  obtain ⟨unread, refused⟩ := (readSettles whole).deep deep
  exact ⟨_, by rw [ofOutputLine, refused]⟩

/-- A response without binary numbers is one line, and the line gives it back unless its map nests
too deep, which makes it a failure and never another response. -/
theorem lineReadBack (r : OrderedResponse) (whole : r.writtenMap.isWhole = true) :
    NoControl r.toLine.toList ∧
    ((∃ p, ofOutput r.toLine = .ok p) ↔ r.writtenMap.nesting ≤ 126) ∧
    (r.writtenMap.nesting ≤ 126 → ofOutput r.toLine = .ok ⟨r.code, r.map.bind mapOf⟩) ∧
    (126 < r.writtenMap.nesting →
      ∃ message, ofOutput r.toLine = .error (.protocol message r.toLine)) := by
  have oneLine : NoControl r.toLine.toList := by
    rw [toLineChars]
    exact textNoControl r.document
  refine ⟨oneLine, ⟨fun ⟨p, ok⟩ => ?_, fun fits => ⟨_, shallowAccepted whole fits⟩⟩,
    fun fits => shallowReadBack whole fits, fun deep => deepRefused whole deep⟩
  rcases Nat.lt_or_ge 126 r.writtenMap.nesting with deep | fits
  · obtain ⟨message, refused⟩ := deepRefused whole deep
    rw [refused] at ok
    cases ok
  · exact fits

theorem sourceMapReadBack :
    ofOutput (toLine ⟨"a\n", some (.object [("names", .array [.string "\x00"])])⟩) =
      .ok ⟨"a\n", some (.object [("names", .array [.string "\x00"])])⟩ :=
  (lineReadBack ⟨⟨"a\n", some (.object [("names", .array [.string "\x00"])])⟩,
    by decide, ⟨trivial, trivial⟩, trivial⟩ rfl).2.2.1 (by decide)

end SvelteTransform.Worker.Response
