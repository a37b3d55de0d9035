import SvelteTransform.Json.Lexical

/-! The characters of printed texts. A number of any kind has only digits, signs, a point and an
exponent, and no text at all has a control character, so a text is always one line. -/
namespace SvelteTransform.Json
open Decimal Reader

def isNumeric (c : Char) : Bool := isDigit c || ['+', '-', '.', 'e'].contains c

def Numeric (text : List Char) : Prop := ∀ c ∈ text, isNumeric c = true

instance (text : List Char) : Decidable (Numeric text) :=
  List.decidableBAll _ text

theorem numericAppend {first second : List Char} (left : Numeric first) (right : Numeric second) :
    Numeric (first ++ second) :=
  fun c member => (List.mem_append.mp member).elim (left c) (right c)

theorem numericCons {c : Char} {text : List Char} (head : isNumeric c = true)
    (tail : Numeric text) : Numeric (c :: text) := List.forall_mem_cons.mpr ⟨head, tail⟩

theorem numericSubset {part text : List Char} (subset : part ⊆ text) (numeric : Numeric text) :
    Numeric part := fun c member => numeric c (subset member)

theorem digitsDigit {n : Nat} {c : Char} (member : c ∈ Nat.toDigits 10 n) : isDigit c = true :=
  Nat.isDigit_of_mem_toDigits (by decide) (by decide) member

theorem digitsNumeric (n : Nat) : Numeric (Nat.toDigits 10 n) := by
  intro c member
  simp [isNumeric, digitsDigit member]

theorem zerosNumeric (n : Nat) : Numeric (zeros n) := by
  intro c member
  rw [List.eq_of_mem_replicate member]
  rfl

theorem digitsOfNatNumeric (n : Nat) (exponent : Int) :
    Numeric (Digits.ofNat n exponent).digits := by
  refine numericSubset ?_ (digitsNumeric n)
  intro c member
  exact List.mem_reverse.mp ((List.dropWhile_sublist _).subset (List.mem_reverse.mp member))

theorem searchNumeric (i : Interval) (magnitude : Int) (count more : Nat) :
    Numeric (search i magnitude count more).digits := by
  induction more generalizing count with
  | zero => exact digitsOfNatNumeric _ _
  | succ more ih =>
    rw [search]
    split
    · exact digitsOfNatNumeric _ _
    · exact ih (count + 1)

theorem exponentTextNumeric (e : Int) : Numeric (exponentText e) := by
  refine numericCons rfl (numericCons ?_ (digitsNumeric _))
  split <;> rfl

theorem layNumeric (layout : Layout) {d : Digits} (numeric : Numeric d.digits) :
    Numeric (layout.lay d) := by
  have part : ∀ n, Numeric (d.digits.take n) ∧ Numeric (d.digits.drop n) := fun n =>
    ⟨numericSubset (List.take_subset n _) numeric, numericSubset (List.drop_subset n _) numeric⟩
  simp only [Layout.lay]
  split
  · split
    · exact fun c member => absurd member List.not_mem_nil
    · rename_i same
      rw [same] at numeric
      exact numericCons (numeric _ List.mem_cons_self) (exponentTextNumeric _)
    · rename_i same
      rw [same] at numeric
      have more := numericSubset (List.subset_cons_self _ _) numeric
      exact numericCons (numeric _ List.mem_cons_self)
        (numericCons rfl (numericAppend more (exponentTextNumeric _)))
  · split
    · exact numericAppend (numericAppend numeric (zerosNumeric _)) (by decide)
    · split
      · exact numericAppend (part _).1 (numericCons rfl (part _).2)
      · exact numericCons rfl (numericCons rfl (numericAppend (zerosNumeric _) numeric))

theorem floatTextNumeric (x : Float) : Numeric (floatText x) := by
  simp only [floatText]
  refine numericAppend ?_ ?_
  · split <;> decide
  · split
    · decide
    · exact layNumeric _ (searchNumeric _ _ _ _)

theorem numberTextNumeric (n : Number) : Numeric (numberText n) := by
  cases n with
  | natural n fits => exact digitsNumeric n
  | negative n fits => exact numericCons rfl (digitsNumeric n)
  | real x finite => exact floatTextNumeric x

def NoControl (text : List Char) : Prop := ∀ c ∈ text, 0x20 ≤ c.toNat

instance (text : List Char) : Decidable (NoControl text) :=
  List.decidableBAll _ text

theorem noControlAppend {first second : List Char} (left : NoControl first)
    (right : NoControl second) : NoControl (first ++ second) :=
  fun c member => (List.mem_append.mp member).elim (left c) (right c)

theorem noControlCons {c : Char} {text : List Char} (head : 0x20 ≤ c.toNat)
    (tail : NoControl text) : NoControl (c :: text) := List.forall_mem_cons.mpr ⟨head, tail⟩

theorem numericNoControl {text : List Char} (numeric : Numeric text) : NoControl text := by
  intro c member
  have kind := numeric c member
  simp only [isNumeric, List.contains_eq_mem, Bool.or_eq_true, decide_eq_true_eq, List.mem_cons,
    List.not_mem_nil, or_false] at kind
  rcases kind with digit | rfl | rfl | rfl | rfl
  · simp only [isDigit, Bool.and_eq_true, decide_eq_true_eq] at digit
    exact Nat.le_trans (by decide) (Char.le_def.mp digit.1)
  all_goals decide

theorem hexPairNoControl (n : Nat) (small : n < 0x20) : NoControl (hexPair n) := by
  revert n
  decide

theorem escapeNoControl (c : Char) : NoControl (escape c) := by
  unfold escape
  split
  case h_8 =>
    split
    case isTrue small => exact noControlAppend (by decide) (hexPairNoControl _ small)
    case isFalse printable => exact noControlCons (Nat.le_of_not_lt printable) (by decide)
  all_goals decide

theorem stringTextNoControl (s : String) : NoControl (stringText s) := by
  refine noControlAppend (noControlCons (by decide) fun c member => ?_) (by decide)
  obtain ⟨d, _, escaped⟩ := List.mem_flatMap.mp member
  exact escapeNoControl d c escaped

theorem memberTextNoControl (key : String) {value rest : List Char} (inValue : NoControl value)
    (after : NoControl rest) : NoControl (stringText key ++ ':' :: (value ++ rest)) :=
  noControlAppend (stringTextNoControl key)
    (noControlCons (by decide) (noControlAppend inValue after))

mutual
theorem textNoControl : (v : Json) → NoControl (text v)
  | .null => by decide
  | .boolean true => by decide
  | .boolean false => by decide
  | .number n => numericNoControl (numberTextNumeric n)
  | .string s => stringTextNoControl s
  | .array [] => by decide
  | .array (v :: items) =>
    noControlCons (by decide) (noControlAppend (textNoControl v) (itemsTextNoControl items))
  | .object [] => by decide
  | .object ((k, v) :: members) =>
    noControlCons (by decide)
      (memberTextNoControl k (textNoControl v) (membersTextNoControl members))
theorem itemsTextNoControl : (items : List Json) → NoControl (itemsText items)
  | [] => by decide
  | v :: items =>
    noControlCons (by decide) (noControlAppend (textNoControl v) (itemsTextNoControl items))
theorem membersTextNoControl : (members : List (String × Json)) → NoControl (membersText members)
  | [] => by decide
  | (k, v) :: members =>
    noControlCons (by decide)
      (memberTextNoControl k (textNoControl v) (membersTextNoControl members))
end

end SvelteTransform.Json
