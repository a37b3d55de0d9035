import SvelteTransform.Proofs.Json.Brackets.Scan
import SvelteTransform.Proofs.Json.Characters

/-! Whatever is printed closes what it opens, numbers of every kind included. -/
namespace SvelteTransform.Json.Brackets
open Reader

theorem numericPlain {text : List Char} (numeric : Numeric text) : Plain text := by
  intro c member
  have kind := numeric c member
  simp only [isNumeric, List.contains_eq_mem, Bool.or_eq_true, decide_eq_true_eq, List.mem_cons,
    List.not_mem_nil, or_false] at kind
  rcases kind with digit | rfl | rfl | rfl | rfl
  · simp [isPlain, digit]
  all_goals rfl

theorem hexPairInside (n : Nat) (small : n < 0x20) :
    run ⟨.inside, 0⟩ (hexPair n) = some ⟨.inside, 0⟩ := by
  revert n
  decide

theorem escapeInside (c : Char) : run ⟨.inside, 0⟩ (escape c) = some ⟨.inside, 0⟩ := by
  unfold escape
  split
  case h_8 notQuote notBackslash _ _ _ _ _ =>
    split
    · rename_i small
      exact hexPairInside _ small
    · rw [runCons, stepInside notQuote notBackslash]
      rfl
  all_goals rfl

theorem stringTextCloses (s : String) (rest : List Char) :
    Closes .outside (stringText s ++ rest) rest := by
  have inside (chars : List Char) :
      run ⟨.inside, 0⟩ (chars.flatMap escape) = some ⟨.inside, 0⟩ := by
    induction chars with
    | nil => rfl
    | cons c more ih => rw [List.flatMap_cons, runAppend, escapeInside, Option.bind_some, ih]
  refine ⟨stringText s, rfl, ?_⟩
  have opens : step ⟨.outside, 0⟩ '"' = some ⟨.inside, 0⟩ := rfl
  rw [stringText, List.cons_append, runCons, opens, Option.bind_some, runAppend, inside]
  rfl

mutual
theorem textCloses : (v : Json) → (rest : List Char) → Closes .outside (text v ++ rest) rest
  | .null, rest => closesPlain (by decide) rest
  | .boolean true, rest => closesPlain (by decide) rest
  | .boolean false, rest => closesPlain (by decide) rest
  | .number n, rest => closesPlain (numericPlain (numberTextNumeric n)) rest
  | .string s, rest => stringTextCloses s rest
  | .array [], rest => closesAround ']' rfl rfl (closesNothing _)
  | .array (v :: vs), rest => by
    rw [text, List.cons_append, List.append_assoc]
    exact closesAround ']' rfl rfl ((textCloses v _).trans (itemsTextCloses vs rest))
  | .object [], rest => closesAround '\x7d' rfl rfl (closesNothing _)
  | .object ((k, v) :: ms), rest => by
    rw [text, List.cons_append, List.append_assoc, List.cons_append, List.append_assoc]
    exact closesAround '\x7d' rfl rfl ((stringTextCloses k _).trans
      (closesStep rfl ((textCloses v _).trans (membersTextCloses ms rest))))
theorem itemsTextCloses : (vs : List Json) → (rest : List Char) →
    Closes .outside (itemsText vs ++ rest) (']' :: rest)
  | [], rest => closesNothing _
  | v :: vs, rest => by
    rw [itemsText, List.cons_append, List.append_assoc]
    exact closesStep rfl ((textCloses v _).trans (itemsTextCloses vs rest))
theorem membersTextCloses : (ms : List (String × Json)) → (rest : List Char) →
    Closes .outside (membersText ms ++ rest) ('\x7d' :: rest)
  | [], rest => closesNothing _
  | (k, v) :: ms, rest => by
    rw [membersText, List.cons_append, List.append_assoc, List.cons_append, List.append_assoc]
    exact closesStep rfl ((stringTextCloses k _).trans
      (closesStep rfl ((textCloses v _).trans (membersTextCloses ms rest))))
end

end SvelteTransform.Json.Brackets
