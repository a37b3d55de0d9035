import SvelteTransform.Json.Record
import SvelteTransform.Proofs.Text.Trim

/-! How one step of a reader is opened: a refusal gives nothing, a step that succeeds has parts
that succeed, and blanks are skipped up to something that is not blank. -/
namespace SvelteTransform.Json.Reader

theorem bindOk {ε α β : Type} {x : Except ε α} {f : α → Except ε β} {b : β} :
    x >>= f = .ok b ↔ ∃ a, x = .ok a ∧ f a = .ok b := by
  cases x with
  | error e => exact ⟨nofun, nofun⟩
  | ok a => exact ⟨fun h => ⟨a, rfl, h⟩, fun ⟨_, rfl, h⟩ => h⟩

theorem okBind {ε α β : Type} {a : α} {f : α → Except ε β} : Except.ok a >>= f = f a := rfl

theorem refuseNotOk {α : Type} {cause : Cause} {rest : List Char} {a : α} :
    refuse cause rest = .ok a ↔ False := ⟨nofun, False.elim⟩

theorem refuseNextNotOk {α : Type} {cause : Cause} {rest : List Char} {a : α} :
    refuseNext cause rest = .ok a ↔ False := ⟨nofun, False.elim⟩

theorem refuseHexNotOk {α : Type} {taken : Nat} {rest : List Char} {a : α} :
    refuseHex taken rest = .ok a ↔ False := by
  simp only [refuseHex]
  split <;> exact ⟨nofun, False.elim⟩

theorem skipSpaceParts (s : List Char) : ∃ blanks, s = blanks ++ skipSpace s ∧
    ∀ c ∈ blanks, isSpace c = true :=
  ⟨s.takeWhile isSpace, List.takeWhile_append_dropWhile.symm,
    List.all_eq_true.mp List.all_takeWhile⟩

theorem skipSpaceSolid {c : Char} (solid : isSpace c = false) (s : List Char) :
    skipSpace (c :: s) = c :: s := List.dropWhile_cons_of_neg (by simp [solid])

theorem spaceBlank {c : Char} (space : isSpace c = true) : Text.isBlank c = true := by
  simp only [isSpace, Bool.or_eq_true, decide_eq_true_eq] at space
  rcases space with ((rfl | rfl) | rfl) | rfl <;> rfl

end SvelteTransform.Json.Reader
