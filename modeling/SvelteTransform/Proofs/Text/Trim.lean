import SvelteTransform.Text.Blank

/-! Trimming takes off blank characters at both ends and nothing else, and what is left is the
only text without blank ends that this can give. -/
namespace SvelteTransform.Text

section
variable {α : Type} {p : α → Bool}

theorem dropWhileNone {xs : List α} (stop : ∀ x, xs.head? = some x → p x = false) :
    xs.dropWhile p = xs := by
  cases xs with
  | nil => rfl
  | cons x more => exact List.dropWhile_cons_of_neg (by simp [stop x rfl])

theorem dropWhileExact {dropped rest : List α} (all : ∀ x ∈ dropped, p x = true)
    (stop : ∀ x, rest.head? = some x → p x = false) : (dropped ++ rest).dropWhile p = rest := by
  rw [List.dropWhile_append_of_pos all, dropWhileNone stop]

theorem dropWhileStop {xs : List α} (x : α) (head : (xs.dropWhile p).head? = some x) :
    p x = false := by
  simpa [head] using List.head?_dropWhile_not p xs

end

def Blank (text : List Char) : Prop := ∀ c ∈ text, isBlank c = true

structure Trimmed (text : List Char) : Prop where
  first : ∀ c, text.head? = some c → isBlank c = false
  last : ∀ c, text.getLast? = some c → isBlank c = false

instance (text : List Char) : Decidable (Blank text) :=
  List.decidableBAll _ text

theorem Trimmed.after {text front : List Char} (trimmed : Trimmed text) (nonempty : text ≠ [])
    (solid : ∀ c, front.head? = some c → isBlank c = false) : Trimmed (front ++ text) := by
  refine ⟨fun c head => ?_, fun c last => ?_⟩
  · rw [List.head?_append, Option.or_eq_some_iff] at head
    exact head.elim (solid c) fun ⟨_, head⟩ => trimmed.first c head
  · rw [List.getLast?_append, Option.or_eq_some_iff] at last
    exact last.elim (trimmed.last c) fun ⟨nothing, _⟩ =>
      absurd (List.getLast?_eq_none_iff.mp nothing) nonempty

theorem Trimmed.before {text back : List Char} (trimmed : Trimmed text) (nonempty : text ≠ [])
    (solid : ∀ c, back.getLast? = some c → isBlank c = false) : Trimmed (text ++ back) := by
  refine ⟨fun c head => ?_, fun c last => ?_⟩
  · rw [List.head?_append, Option.or_eq_some_iff] at head
    exact head.elim (trimmed.first c) fun ⟨nothing, _⟩ =>
      absurd (List.head?_eq_none_iff.mp nothing) nonempty
  · rw [List.getLast?_append, Option.or_eq_some_iff] at last
    exact last.elim (solid c) fun ⟨_, last⟩ => trimmed.last c last

theorem trimLeftParts (text : List Char) : ∃ left, text = left ++ trimLeft text ∧ Blank left ∧
    ∀ c, (trimLeft text).head? = some c → isBlank c = false :=
  ⟨text.takeWhile isBlank, List.takeWhile_append_dropWhile.symm,
    List.all_eq_true.mp List.all_takeWhile, dropWhileStop⟩

theorem trimRightMirrored (text : List Char) :
    trimRight text = (trimLeft text.reverse).reverse := by
  unfold trimRight
  split
  · rfl
  · rename_i solid
    have stop : ∀ c, text.reverse.head? = some c → isBlank c = false := by
      intro c last
      rw [List.head?_reverse] at last
      simpa [last] using solid
    rw [trimLeft, dropWhileNone stop, List.reverse_reverse]

theorem trimRightParts (text : List Char) : ∃ right, text = trimRight text ++ right ∧ Blank right ∧
    ∀ c, (trimRight text).getLast? = some c → isBlank c = false := by
  obtain ⟨left, parts, blank, stop⟩ := trimLeftParts text.reverse
  rw [trimRightMirrored]
  refine ⟨left.reverse, ?_, fun c member => blank c (List.mem_reverse.mp member), ?_⟩
  · rw [← List.reverse_append, ← parts, List.reverse_reverse]
  · intro c last
    rw [List.getLast?_reverse] at last
    exact stop c last

theorem trimParts (text : List Char) :
    ∃ left right, text = left ++ trim text ++ right ∧ Blank left ∧ Blank right ∧
      Trimmed (trim text) := by
  obtain ⟨left, leftParts, leftBlank, first⟩ := trimLeftParts text
  obtain ⟨right, rightParts, rightBlank, last⟩ := trimRightParts (trimLeft text)
  refine ⟨left, right, ?_, leftBlank, rightBlank, ?_, last⟩
  · rw [List.append_assoc, trim, ← rightParts]
    exact leftParts
  · intro c head
    apply first c
    rw [rightParts, List.head?_append]
    exact Option.or_eq_some_iff.mpr (.inl head)

theorem trimAround {left text right : List Char} (leftBlank : Blank left)
    (rightBlank : Blank right) (trimmed : Trimmed text) : trim (left ++ text ++ right) = text := by
  have rightGone : trimLeft (right.reverse ++ text.reverse) = text.reverse := by
    apply dropWhileExact
    · intro c member
      exact rightBlank c (List.mem_reverse.mp member)
    · intro c last
      rw [List.head?_reverse] at last
      exact trimmed.last c last
  cases text with
  | nil =>
    have blank : ∀ c ∈ left ++ right, isBlank c = true := by
      intro c member
      exact (List.mem_append.mp member).elim (leftBlank c) (rightBlank c)
    have leftGone : trimLeft (left ++ [] ++ right) = [] := by
      rw [List.append_nil, ← List.append_nil (left ++ right)]
      exact dropWhileExact blank (by simp)
    rw [trim, leftGone]
    rfl
  | cons c text =>
    have leftGone : trimLeft (left ++ (c :: text) ++ right) = c :: text ++ right := by
      rw [List.append_assoc]
      exact dropWhileExact leftBlank trimmed.first
    rw [trim, leftGone, trimRightMirrored, List.reverse_append, rightGone, List.reverse_reverse]

end SvelteTransform.Text
