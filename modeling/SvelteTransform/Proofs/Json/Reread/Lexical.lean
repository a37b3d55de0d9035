import SvelteTransform.Json.Reader
import SvelteTransform.Proofs.Json.Characters
import SvelteTransform.Proofs.Json.Literals
import SvelteTransform.Proofs.Json.Steps

/-! Strings and whole numbers are read back from their texts, whatever follows them. Only a number
does not show its own end, so what follows one must not go on with it. -/
namespace SvelteTransform.Json.Reader

theorem hexDigitRead {d : Nat} (small : d < 16) : hexDigit? (Nat.digitChar d) = some d := by
  have all : ∀ d < 16, hexDigit? (Nat.digitChar d) = some d := by decide
  exact all d small

theorem codeRead (c : Char) (control : c.toNat < 0x20) (read s : List Char) :
    stringFrom .used .escape read ('u' :: '0' :: '0' :: (hexPair c.toNat ++ s)) =
      stringFrom .used .plain (c :: read) s := by
  have high := hexDigitRead (show c.toNat / 16 < 16 by omega)
  have low := hexDigitRead (show c.toNat % 16 < 16 by omega)
  have zero : hexDigit? '0' = some 0 := rfl
  have whole : ((0 * 16 + 0) * 16 + 0) * 16 + c.toNat / 16 = c.toNat / 16 := by omega
  have value : c.toNat / 16 * 16 + c.toNat % 16 = c.toNat := by omega
  have single : unit16 .used c.toNat none = .character c := by
    simp only [unit16, reduceCtorEq, if_false]
    rw [if_neg (by omega), if_neg (by omega), Char.ofNat_toNat]
  simp only [hexPair, List.cons_append, List.nil_append, stringFrom, zero, high, low, whole, value,
    single, if_true, Nat.reduceLT, Nat.reduceAdd, if_false, Care.keep]

theorem escapeRead (c : Char) (read s : List Char) :
    stringFrom .used .plain read (escape c ++ s) = stringFrom .used .plain (c :: read) s := by
  unfold escape
  split
  case h_8 notQuote notBackslash _ _ _ _ _ =>
    split
    case isTrue control => exact codeRead c control read s
    case isFalse printable =>
      simp only [List.singleton_append, stringFrom, if_neg notQuote, if_neg notBackslash,
        if_neg printable, Care.keep]
  all_goals rfl

theorem stringFromRead (cs read rest : List Char) :
    stringFrom .used .plain read (cs.flatMap escape ++ '"' :: rest) =
      .ok (String.ofList (read.reverse ++ cs), rest) := by
  induction cs generalizing read with
  | nil => rw [List.append_nil]; rfl
  | cons c cs ih =>
    rw [List.flatMap_cons, List.append_assoc, escapeRead, ih, List.reverse_cons, List.append_assoc,
      List.singleton_append]

theorem stringRead (s : String) (rest : List Char) :
    Reader.string .used (s.toList.flatMap escape ++ '"' :: rest) = .ok (s, rest) := by
  rw [Reader.string, stringFromRead, List.reverse_nil, List.nil_append, String.ofList_toList]

theorem stringTextAppend (s : String) (rest : List Char) :
    stringText s ++ rest = '"' :: (s.toList.flatMap escape ++ '"' :: rest) := by
  simp only [stringText, List.cons_append, List.append_assoc, List.nil_append]

def EndsNumber (rest : List Char) : Prop :=
  ∀ c, rest.head? = some c → isDigit c = false ∧ c ≠ '.' ∧ c ≠ 'e' ∧ c ≠ 'E'

theorem digitsParts (n : Nat) : ∃ c digits, Nat.toDigits 10 n = c :: digits ∧
    (∀ d ∈ c :: digits, isDigit d = true) ∧ (c = '0' → digits = []) := by
  have parts : ∃ c digits, Nat.toDigits 10 n = c :: digits ∧ (c = '0' → n = 0) := by
    induction n using Nat.base_induction 10 (by decide) with
    | single m small =>
      have all : ∀ m < 10, Nat.digitChar m = '0' → m = 0 := by decide
      exact ⟨_, _, Nat.toDigits_of_lt_base small, all m small⟩
    | digit m d small positive ih =>
      obtain ⟨c, digits, same, zero⟩ := ih
      refine ⟨c, digits ++ Nat.toDigits 10 d, ?_, fun leads => absurd (zero leads) (by omega)⟩
      rw [← Nat.toDigits_append_toDigits (by decide) positive small, same, List.cons_append]
  obtain ⟨c, digits, same, zero⟩ := parts
  refine ⟨c, digits, same, fun d member => digitsDigit (n := n) (by rwa [same]), fun leads => ?_⟩
  rw [zero leads, Nat.toDigits_zero, List.cons.injEq] at same
  exact same.2.symm

theorem digitsTaken {digits rest : List Char} (all : ∀ d ∈ digits, isDigit d = true)
    (stop : ∀ c, rest.head? = some c → isDigit c = false) :
    (digits ++ rest).takeWhile isDigit = digits ∧ (digits ++ rest).dropWhile isDigit = rest := by
  have left : (digits ++ rest).dropWhile isDigit = rest := Text.dropWhileExact all stop
  refine ⟨?_, left⟩
  have parts := List.takeWhile_append_dropWhile (p := isDigit) (l := digits ++ rest)
  rw [left] at parts
  exact List.append_cancel_right parts

theorem afterWholeEnds (care : Care) (literal : Literal) {rest : List Char}
    (ends : EndsNumber rest) : afterWhole care literal rest = .ok (literal, rest) := by
  have fraction : afterFraction care literal rest = .ok (literal, rest) := by
    cases rest with
    | nil => rfl
    | cons c rest =>
      obtain ⟨_, _, lower, upper⟩ := ends c rfl
      rw [afterFraction, if_neg (by simp [lower, upper])]
  unfold afterWhole
  split
  · exact absurd rfl (ends '.' rfl).2.1
  · exact fraction

theorem unsignedRead (negative : Bool) (n : Nat) {rest : List Char} (ends : EndsNumber rest) :
    unsigned .used negative (Nat.toDigits 10 n ++ rest) =
      .ok (⟨negative, Nat.toDigits 10 n, none, none⟩, rest) := by
  obtain ⟨c, digits, same, all, alone⟩ := digitsParts n
  have taken := digitsTaken all fun d head => (ends d head).1
  rw [same]
  rw [List.cons_append] at taken ⊢
  simp only [unsigned]
  split
  · rename_i zero
    rw [alone zero, List.nil_append]
    split
    · rename_i d more
      rw [if_neg (by simp [(ends d rfl).1]), afterWholeEnds _ _ ends]
    · exact afterWholeEnds _ _ ends
  · rw [if_pos (all c List.mem_cons_self), taken.1, taken.2, afterWholeEnds _ _ ends]

theorem literalNatural {n : Nat} (fits : n < UInt64.size) :
    Literal.number ⟨false, Nat.toDigits 10 n, none, none⟩ = .ok (.natural n fits) :=
  Literal.numberMeans.mpr (.natural Nat.ofDigitChars_ten_toDigits fits)

theorem literalNegative {n : Nat} (fits : 0 < n ∧ n ≤ UInt64.size / 2) :
    Literal.number ⟨true, Nat.toDigits 10 n, none, none⟩ = .ok (.negative n fits) :=
  Literal.numberMeans.mpr (.negative Nat.ofDigitChars_ten_toDigits fits)

def startsNumber (c : Char) : Bool := c = '-' || isDigit c

theorem startsNumberSolid {c : Char} (starts : startsNumber c = true) :
    isSpace c = false ∧ c ∉ ['[', ']', '\x7b', '\x7d', '"', 'n', 't', 'f'] := by
  refine ⟨Bool.eq_false_iff.mpr fun space => ?_, fun member => ?_⟩
  · simp only [isSpace, Bool.or_eq_true, decide_eq_true_eq] at space
    rcases space with ((rfl | rfl) | rfl) | rfl <;> contradiction
  · simp only [List.mem_cons, List.not_mem_nil, or_false] at member
    rcases member with rfl | rfl | rfl | rfl | rfl | rfl | rfl | rfl <;> contradiction

theorem numberStarts {n : Number} (whole : (Json.number n).isWhole = true) :
    ∃ c s, numberText n = c :: s ∧ startsNumber c = true := by
  cases n with
  | natural n fits =>
    obtain ⟨c, digits, same, all, _⟩ := digitsParts n
    exact ⟨c, digits, same, by simp [startsNumber, all c List.mem_cons_self]⟩
  | negative => exact ⟨_, _, rfl, rfl⟩
  | real => cases whole

theorem numberRead {n : Number} (whole : (Json.number n).isWhole = true) {c : Char}
    {s rest : List Char} (ends : EndsNumber rest) (same : numberText n ++ rest = c :: s) :
    Reader.number c s = .ok (n, rest) := by
  cases n with
  | natural n fits =>
    have notMinus : c ≠ '-' := by
      obtain ⟨d, digits, parts, all, _⟩ := digitsParts n
      rw [numberText, parts, List.cons_append] at same
      rintro rfl
      cases same
      have digit := all '-' List.mem_cons_self
      contradiction
    rw [Reader.number, if_neg notMinus, ← same, numberText, unsignedRead _ _ ends, okBind]
    simp only [literalNatural fits]
  | negative n fits =>
    rw [numberText, List.cons_append, List.cons.injEq] at same
    obtain ⟨rfl, rfl⟩ := same
    rw [Reader.number, if_pos rfl, unsignedRead _ _ ends, okBind]
    simp only [literalNegative fits]
  | real => cases whole

end SvelteTransform.Json.Reader
