import SvelteTransform.Proofs.Json.Fuel
import SvelteTransform.Proofs.Json.Grammar.Values
import SvelteTransform.Proofs.Json.Reread.Values

/-! Whole documents. One is read as the value that it denotes, if it nests no deeper than there is
room for; and as it never nests deeper than it is long, with that much room depth is no limit. So a
text is a document of one value at most. The text of a value without binary numbers is one of that
value. -/
namespace SvelteTransform.Json
open Reader

def IsDocumentOf (v : Json) (text : List Char) : Prop :=
  ∃ tree, IsDocument tree text ∧ Denotes tree v

def readDeep (text : List Char) : Except Fault Json := read text.length text

mutual
theorem writtenNesting : {tree : Tree} → {text : List Char} → Written tree text →
    tree.nesting ≤ text.length
  | _, _, .null | _, _, .true | _, _, .false | _, _, .number _ | _, _, .string _ => Nat.zero_le _
  | _, _, .noItems _ | _, _, .noMembers _ => Nat.succ_le_succ (Nat.zero_le _)
  | _, _, .array _ head tail => by
    have first := writtenNesting head
    have others := writtenItemsNesting tail
    simp only [Tree.nesting, Tree.nestingItems, List.length_cons, List.length_append]
    omega
  | _, _, .object _ _ head tail => by
    have first := writtenNesting head
    have others := writtenMembersNesting tail
    simp only [Tree.nesting, Tree.nestingMembers, List.length_cons, List.length_append]
    omega
theorem writtenItemsNesting : {items : List Tree} → {text : List Char} →
    WrittenItems items text → Tree.nestingItems items ≤ text.length
  | _, _, .close _ => Nat.zero_le _
  | _, _, .next _ _ head tail => by
    have first := writtenNesting head
    have others := writtenItemsNesting tail
    simp only [Tree.nestingItems, List.length_cons, List.length_append]
    omega
theorem writtenMembersNesting : {members : List (Quoted × Tree)} → {text : List Char} →
    WrittenMembers members text → Tree.nestingMembers members ≤ text.length
  | _, _, .close _ => Nat.zero_le _
  | _, _, .next _ _ _ head tail => by
    have first := writtenNesting head
    have others := writtenMembersNesting tail
    simp only [Tree.nestingMembers, List.length_cons, List.length_append]
    omega
end

theorem documentNesting {tree : Tree} {text : List Char} (document : IsDocument tree text) :
    tree.nesting ≤ text.length := by
  obtain ⟨before, body, after, rfl, -, -, written⟩ := document
  have inBody := writtenNesting written
  simp only [List.length_append]
  omega

theorem finishedTaken {s : List Char} : finished s = .ok () ↔ Spaces s := by
  constructor
  · intro ok
    unfold finished at ok
    split at ok
    · rename_i nothing
      obtain ⟨spaces, parts, blank⟩ := spacesSkipped s
      rw [parts, nothing, List.append_nil]
      exact blank
    · exact (refuseNextNotOk.mp ok).elim
  · intro blank
    have nothing : skipSpace (s ++ []) = [] := Text.dropWhileExact blank nofun
    rw [List.append_nil] at nothing
    rw [finished, nothing]

theorem readDocument {room : Nat} {text : List Char} {v : Json} : read room text = .ok v ↔
    ∃ tree, IsDocument tree text ∧ Denotes tree v ∧ tree.nesting ≤ room := by
  constructor
  · intro ok
    obtain ⟨⟨w, after⟩, inner, ok⟩ := bindOk.mp ok
    obtain ⟨⟨⟩, done, same⟩ := bindOk.mp ok
    cases same
    obtain ⟨before, tree, body, parts, blank, written, denotes, fits⟩ :=
      readsWritten (valueReads inner)
    exact ⟨tree, ⟨before, body, after, parts, blank, finishedTaken.mp done, written⟩, denotes, fits⟩
  · rintro ⟨tree, ⟨before, body, after, rfl, blankBefore, blankAfter, written⟩, denotes, fits⟩
    have ends : EndsNumber after := by
      rw [← List.append_nil after]
      exact spacesEnd blankAfter nofun
    have inner := valueRuns (writtenReads written denotes fits blankBefore ends) (Nat.le_refl _)
    rw [Json.read, inner, okBind]
    simp only [finishedTaken.mpr blankAfter, okBind]
    rfl

theorem readDeepDocument {text : List Char} {v : Json} :
    readDeep text = .ok v ↔ IsDocumentOf v text := by
  rw [readDeep, readDocument]
  constructor
  · rintro ⟨tree, document, denotes, -⟩
    exact ⟨tree, document, denotes⟩
  · rintro ⟨tree, document, denotes⟩
    exact ⟨tree, document, denotes, documentNesting document⟩

theorem documentUnique {text : List Char} {v w : Json} (ofV : IsDocumentOf v text)
    (ofW : IsDocumentOf w text) : v = w := by
  have read := readDeepDocument.mpr ofV
  rw [readDeepDocument.mpr ofW] at read
  exact (Except.ok.inj read).symm

section
variable {v : Json} (whole : v.isWhole = true)
include whole

theorem textRead : read (nesting v) (text v) = .ok (settled v) := by
  have ends : Ends [] := nofun
  have inner := (valueSettles v whole (nesting v) (Nat.le_refl _) ends).shallow (Nat.le_refl _)
  rw [List.append_nil] at inner
  rw [Json.read, inner, okBind]
  rfl

theorem textDocument (ordered : Ordered v) : IsDocumentOf v (text v) := by
  obtain ⟨tree, document, denotes, -⟩ := readDocument.mp (textRead whole)
  rw [settledSame v ordered] at denotes
  exact ⟨tree, document, denotes⟩

end

end SvelteTransform.Json
