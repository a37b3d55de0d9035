import SvelteTransform.Proofs.Json.Grammar.Documents
import SvelteTransform.Proofs.Json.Grammar.Record
import SvelteTransform.Proofs.Worker.Stream

/-! Which outputs are responses. An output is accepted if it is a document between blanks that has
the members of a response, or its values in their places, and what it then gives follows from the
document alone. -/
namespace SvelteTransform.Worker.Response
open Json Json.Reader Json.Brackets Text

inductive GivesMap : List Tree → Option Json → Prop where
  | missing : GivesMap [] none
  | null : GivesMap [.null] none
  | value {tree v} (shallow : tree.nesting ≤ 126) (denotes : Denotes tree v) (present : v ≠ .null) :
      GivesMap [tree] (some v)

inductive Gives : Tree → Response → Prop where
  | members {members code text map}
      (named : ∀ member ∈ members, ∃ name, Quoted.string? member.1 = some name)
      (once : valuesOf "code" members = [.string code]) (paired : code.string? = some text)
      (mapped : GivesMap (valuesOf "map" members) map) : Gives (.object members) ⟨text, map⟩
  | places {code others text map} (paired : Quoted.string? code = some text)
      (mapped : GivesMap others map) : Gives (.array (.string code :: others)) ⟨text, map⟩

inductive Stands : List Char → Response → Prop where
  | intro {before body after tree p} (blankBefore : Blank before) (blankAfter : Blank after)
      (trimmed : Trimmed body) (document : IsDocument tree body) (gives : Gives tree p) :
      Stands (before ++ body ++ after) p

theorem mapOfValue {v : Json} (present : v ≠ .null) : mapOf v = some v := by
  cases v with
  | null => contradiction
  | _ => rfl

theorem takesMap {tree : Tree} {v : Json} (taken : TakesAny mapRoom tree v) :
    GivesMap [tree] (mapOf v) := by
  obtain ⟨shallow, denotes⟩ := taken
  by_cases isNull : v = .null
  · subst isNull
    cases denotes
    exact .null
  · rw [mapOfValue isNull]
    exact .value shallow denotes isNull

theorem mapTaken {values : List Tree} {map : Option Json} (gives : GivesMap values map) :
    values = [] ∧ map = none ∨ ∃ tree v, values = [tree] ∧ TakesAny mapRoom tree v ∧
      map = mapOf v := by
  cases gives with
  | missing => exact .inl ⟨rfl, rfl⟩
  | null => exact .inr ⟨.null, .null, rfl, ⟨Nat.zero_le _, .null⟩, rfl⟩
  | value shallow denotes present =>
    exact .inr ⟨_, _, rfl, ⟨shallow, denotes⟩, (mapOfValue present).symm⟩

def takesField (name : String) : Tree → Json → Prop :=
  if name = "code" then TakesString else TakesAny mapRoom

theorem codeTakes : takesField "code" = TakesString := if_pos rfl

theorem mapTakes : takesField "map" = TakesAny mapRoom := if_neg (by decide)

theorem fieldsRead : ∀ field ∈ [codeField, mapField], field.Reads (takesField field.name) :=
  List.forall_mem_cons.mpr ⟨stringFieldReads "code",
    List.forall_mem_singleton.mpr (anyFieldReads "map" mapRoom)⟩

theorem ofObjectTaken {fuel : Nat} {s rest : List Char} {r : Response}
    (ok : ofObject fuel s = .ok (r, rest)) : ∃ tree text, '\x7b' :: s = text ++ rest ∧
      Written tree text ∧ Gives tree r := by
  obtain ⟨⟨found, t⟩, read, ok⟩ := bindOk.mp ok
  dsimp only at ok
  split at ok
  · rename_i code isCode
    cases ok
    obtain ⟨members, text, parts, written, adds⟩ := fieldsTaken fieldsRead read
    refine ⟨.object members, text, parts, written, ?_⟩
    have codes : Finds (takesField "code") none (valuesOf "code" members) (found.lookup "code") :=
      addsFinds adds (by decide)
    have maps : Finds (takesField "map") none (valuesOf "map" members) (found.lookup "map") :=
      addsFinds adds (by decide)
    rw [codeTakes, isCode] at codes
    rw [mapTakes] at maps
    generalize once : valuesOf "code" members = values at codes
    generalize found.lookup "map" = map at maps ⊢
    obtain _ | ⟨q, text, rfl, paired, same⟩ := codes
    cases same
    refine .members (addsNamed adds) once paired ?_
    generalize valuesOf "map" members = values at maps ⊢
    cases maps with
    | nothing => exact .missing
    | once taken => exact takesMap taken
  · exact (refuseNotOk.mp ok).elim

theorem writtenObject {members : List (Quoted × Tree)} {r : Response}
    (gives : Gives (.object members) r) {text s rest : List Char}
    (written : Written (.object members) text) (parts : text ++ rest = '\x7b' :: s) {fuel : Nat}
    (enough : s.length ≤ fuel) : ofObject fuel s = .ok (r, rest) := by
  cases gives with
  | @members _ _ code map named once paired mapped =>
    have maps : ∃ value, Finds (TakesAny mapRoom) none (valuesOf "map" members) value ∧
        map = value.bind mapOf := by
      obtain ⟨missing, rfl⟩ | ⟨tree, v, one, taken, rfl⟩ := mapTaken mapped
      · rw [missing]
        exact ⟨_, .nothing, rfl⟩
      · rw [one]
        exact ⟨some v, .once taken, rfl⟩
    obtain ⟨value, maps, rfl⟩ := maps
    have finds : ∀ name ∈ [codeField, mapField].map Field.name,
        Finds (takesField name) (List.lookup name []) (valuesOf name members)
          (if name = "code" then some (.string code) else value) := by
      refine List.forall_mem_cons.mpr ⟨?_, List.forall_mem_singleton.mpr maps⟩
      have taken : TakesString (.string _) (.string code) := ⟨_, _, rfl, paired, rfl⟩
      exact once ▸ .once taken
    obtain ⟨found, adds, same⟩ := findsAdds named finds
    have read := writtenFields fieldsRead adds written parts enough
    have isCode : found.lookup "code" = some (.string code) :=
      (same "code" (by decide)).trans (if_pos rfl)
    have isMap : found.lookup "map" = value := (same "map" (by decide)).trans (if_neg (by decide))
    rw [ofObject, read, okBind]
    simp only [isCode, isMap]
    rfl

theorem closeListTaken {s rest : List Char} :
    closeList s = .ok rest ↔ skipSpace s = ']' :: rest := by
  constructor
  · intro ok
    unfold closeList at ok
    split at ok
    · exact (refuseNotOk.mp ok).elim
    · rename_i skipped
      cases ok
      exact skipped
    · split at ok <;> exact (refuseNextNotOk.mp ok).elim
    · exact (refuseNextNotOk.mp ok).elim
  · intro skipped
    rw [closeList, skipped]
    rfl

theorem ofArrayTaken {fuel : Nat} {s rest : List Char} {r : Response}
    (ok : ofArray fuel s = .ok (r, rest)) : ∃ tree text, '[' :: s = text ++ rest ∧
      Written tree text ∧ Gives tree r := by
  unfold ofArray at ok
  split at ok
  · exact (refuseNotOk.mp ok).elim
  · exact (refuseNotOk.mp ok).elim
  · obtain ⟨⟨code, t⟩, read, ok⟩ := bindOk.mp ok
    obtain ⟨inside, start, blankInside⟩ := spacesSkipped s
    obtain ⟨more, q, parts, blankMore, paired⟩ := stringValueTaken read
    have blank := spacesAppend blankInside blankMore
    rw [parts] at start
    dsimp only at ok
    split at ok
    · exact (refuseNotOk.mp ok).elim
    · rename_i skipped
      cases ok
      obtain ⟨before, rfl, blankBefore⟩ := skippedParts skipped
      refine ⟨.array [.string q], _, ?_, .array blank (.string q) (.close blankBefore),
        .places paired .missing⟩
      rw [start]
      simp
    · rename_i u skipped
      obtain ⟨before, rfl, blankBefore⟩ := skippedParts skipped
      split at ok
      · exact (refuseNotOk.mp ok).elim
      · exact (refuseNextNotOk.mp ok).elim
      · obtain ⟨⟨v, w⟩, readMap, ok⟩ := bindOk.mp ok
        obtain ⟨x, closed, ok⟩ := bindOk.mp ok
        cases ok
        obtain ⟨behind, next, blankBehind⟩ := spacesSkipped u
        obtain ⟨further, tree, text, rest, blankFurther, written, taken⟩ :=
          (anyFieldReads "map" mapRoom).taken readMap
        obtain ⟨last, rfl, blankLast⟩ := skippedParts (closeListTaken.mp closed)
        refine ⟨.array [.string q, tree], _, ?_, .array blank (.string q)
          (.next blankBefore (spacesAppend blankBehind blankFurther) written (.close blankLast)),
          .places paired (takesMap taken)⟩
        rw [start, next, rest]
        simp
    · exact (refuseNextNotOk.mp ok).elim

theorem writtenPlace {tree : Tree} {v : Json} (taken : TakesAny mapRoom tree v)
    {text : List Char} (written : Written tree text) {after last : List Char}
    (blankAfter : Spaces after) (blankLast : Spaces last) {fuel : Nat} {rest : List Char}
    (enough : (text ++ (last ++ ']' :: rest)).length ≤ fuel) :
    ∃ c s, skipSpace (after ++ (text ++ (last ++ ']' :: rest))) = c :: s ∧ c ≠ ']' ∧
      mapField.value fuel (c :: s) = .ok (v, last ++ ']' :: rest) := by
  have ends := spacesEnd blankLast (closedEnds ']' (.inr (.inl rfl)) rest)
  have reads := writtenReads written taken.2 taken.1 spacesNothing ends
  obtain ⟨c, s, starts, notClosing⟩ := readsValueStarts reads
  rw [skipToWritten spacesNothing written] at starts
  refine ⟨c, s, (skipToWritten blankAfter written).trans starts, notClosing, ?_⟩
  rw [← starts]
  exact valueRuns reads enough

theorem writtenArray {trees : List Tree} {r : Response} (gives : Gives (.array trees) r)
    {text s rest : List Char} (written : Written (.array trees) text)
    (parts : text ++ rest = '[' :: s) {fuel : Nat} (enough : s.length ≤ fuel) :
    ofArray fuel s = .ok (r, rest) := by
  cases gives with
  | places paired mapped =>
    cases written with
    | array blank head tail =>
      cases head
      simp only [List.cons_append, List.append_assoc, List.cons.injEq] at parts
      obtain ⟨_, rfl⟩ := parts
      have inTail := partFits (partFits enough)
      rw [ofArray, skipToKey blank]
      change (stringValue ([] ++ (Quoted.text _ ++ _)) >>= _) = _
      rw [stringValueWritten spacesNothing paired, okBind]
      obtain ⟨rfl, rfl⟩ | ⟨tree, v, rfl, taken, rfl⟩ := mapTaken mapped
      · cases tail with
        | close blankLast =>
          rw [List.append_assoc, List.singleton_append]
          simp only [skipSpaces (c := ']') blankLast rfl]
          rfl
      · cases tail with
        | next blankBefore blankAfter written tail =>
          cases tail with
          | close blankLast =>
            simp only [List.cons_append, List.append_assoc, List.nil_append] at inTail ⊢
            have fits := partFits (Nat.le_trans (Nat.le_succ _) (partFits inTail))
            obtain ⟨c, s, skipped, notClosing, read⟩ :=
              writtenPlace taken written blankAfter blankLast fits
            simp only [skipSpaces (c := ',') blankBefore rfl, skipped]
            split
            · contradiction
            · rename_i closing
              exact absurd (List.cons.inj closing).1 notClosing
            · rw [read, okBind]
              simp only [closeListTaken.mpr (skipSpaces blankLast rfl), okBind]
              rfl

theorem readTaken {text : List Char} {r : Response} (ok : read text = .ok r) :
    ∃ tree, IsDocument tree text ∧ Gives tree r := by
  unfold Response.read at ok
  split at ok
  · exact (refuseNotOk.mp ok).elim
  · rename_i skipped
    obtain ⟨⟨p, rest⟩, inner, ok⟩ := bindOk.mp ok
    obtain ⟨⟨⟩, done, same⟩ := bindOk.mp ok
    cases same
    obtain ⟨before, rfl, blankBefore⟩ := skippedParts skipped
    obtain ⟨tree, body, parts, written, gives⟩ := ofArrayTaken inner
    exact ⟨tree, ⟨before, body, rest, by rw [parts], blankBefore, finishedTaken.mp done, written⟩,
      gives⟩
  · rename_i skipped
    obtain ⟨⟨p, rest⟩, inner, ok⟩ := bindOk.mp ok
    obtain ⟨⟨⟩, done, same⟩ := bindOk.mp ok
    cases same
    obtain ⟨before, rfl, blankBefore⟩ := skippedParts skipped
    obtain ⟨tree, body, parts, written, gives⟩ := ofObjectTaken inner
    exact ⟨tree, ⟨before, body, rest, by rw [parts], blankBefore, finishedTaken.mp done, written⟩,
      gives⟩
  · obtain ⟨_, _, ok⟩ := bindOk.mp ok
    exact (refuseNotOk.mp ok).elim

theorem documentRead {tree : Tree} {text : List Char} {r : Response}
    (document : IsDocument tree text) (gives : Gives tree r) : read text = .ok r := by
  obtain ⟨before, body, after, rfl, blankBefore, blankAfter, written⟩ := document
  have done := finishedTaken.mpr blankAfter
  have skipped : skipSpace (before ++ (body ++ after)) = body ++ after :=
    skipToWritten blankBefore written
  have fits := partFits (Nat.le_refl (before ++ (body ++ after)).length)
  -- One character is behind the reader when it goes inside.
  have inside {c : Char} {more : List Char} (parts : body ++ after = c :: more) :
      more.length ≤ (before ++ (body ++ after)).length := by
    have whole := congrArg List.length parts
    rw [List.length_cons] at whole
    omega
  rw [Response.read, skipped]
  cases gives with
  | members named once paired mapped =>
    obtain ⟨more, rfl⟩ : ∃ more, body = '\x7b' :: more := by
      cases written <;> exact ⟨_, rfl⟩
    have inner : ofObject _ (more ++ after) = .ok (_, after) :=
      writtenObject (.members named once paired mapped) written rfl (inside rfl)
    change (ofObject _ (more ++ after) >>= _) = _
    rw [inner, okBind]
    simp only [done, okBind]
    rfl
  | places paired mapped =>
    obtain ⟨more, rfl⟩ : ∃ more, body = '[' :: more := by
      cases written
      exact ⟨_, rfl⟩
    have inner : ofArray _ (more ++ after) = .ok (_, after) :=
      writtenArray (.places paired mapped) written rfl (inside rfl)
    change (ofArray _ (more ++ after) >>= _) = _
    rw [inner, okBind]
    simp only [done, okBind]
    rfl

theorem acceptedStands {output : String} {p : Response} :
    ofOutput output = .ok p ↔ Stands output.toList p := by
  constructor
  · intro ok
    unfold ofOutput at ok
    dsimp only at ok
    split at ok
    · rename_i read
      cases ok
      obtain ⟨tree, document, gives⟩ := readTaken read
      obtain ⟨before, after, parts, blankBefore, blankAfter, trimmed⟩ := trimParts output.toList
      rw [parts]
      exact .intro blankBefore blankAfter trimmed document gives
    · cases ok
  · intro stands
    generalize whole : output.toList = text at stands
    obtain ⟨blankBefore, blankAfter, trimmed, document, gives⟩ := stands
    simp only [ofOutput, whole, trimAround blankBefore blankAfter trimmed,
      documentRead document gives]

/-- An output is a response if and only if it is a document that stands for one, between blanks, and
any other output is refused as a whole. -/
theorem acceptedDocuments (output : String) :
    (∀ p, ofOutput output = .ok p ↔ Stands output.toList p) ∧
    ((∃ message, ofOutput output = .error (.protocol message output)) ↔
      ¬ ∃ p, Stands output.toList p) := by
  refine ⟨fun p => acceptedStands, ?_, ?_⟩
  · rintro ⟨message, refused⟩ ⟨p, stands⟩
    rw [acceptedStands.mpr stands] at refused
    cases refused
  · intro nothing
    exact ofOutputFails fun p ok => nothing ⟨p, acceptedStands.mp ok⟩

end SvelteTransform.Worker.Response
