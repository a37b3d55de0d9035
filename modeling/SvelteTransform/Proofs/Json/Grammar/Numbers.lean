import SvelteTransform.Proofs.Json.Grammar.Basic
import SvelteTransform.Proofs.Json.Reread.Lexical

/-! Numbers are read as they are spelled, whether they will be used or not. Where a number ends is
seen only from what follows it. -/
namespace SvelteTransform.Json
open Reader

theorem digitsSplit (s : List Char) : s = s.takeWhile isDigit ++ s.dropWhile isDigit ∧
    ∀ c ∈ s.takeWhile isDigit, isDigit c = true :=
  ⟨List.takeWhile_append_dropWhile.symm, List.all_eq_true.mp List.all_takeWhile⟩

theorem digitsLead {c : Char} {s : List Char} (digit : isDigit c = true) :
    IsDigits ((c :: s).takeWhile isDigit) := by
  refine ⟨?_, (digitsSplit (c :: s)).2⟩
  rw [List.takeWhile_cons_of_pos digit]
  exact List.cons_ne_nil _ _

theorem exponentTaken {care : Care} {s rest : List Char} {e : Bool × List Char}
    (ok : exponentPart care s = .ok (e, rest)) : ∃ text, s = text ++ rest ∧
      ∀ mark, mark = 'e' ∨ mark = 'E' → ExponentText (some e) (mark :: text) := by
  unfold exponentPart at ok
  split at ok
  rename_i negative digits signed
  split at ok
  · simp only [refuseNotOk] at ok
  · rename_i c more
    split at ok
    · rename_i digit
      cases ok
      have lead := digitsLead (s := more) digit
      obtain ⟨parts, _⟩ := digitsSplit (c :: more)
      split at signed <;> cases signed
      · exact ⟨'+' :: _, congrArg _ parts, fun mark marked => .plus marked lead⟩
      · exact ⟨'-' :: _, congrArg _ parts, fun mark marked => .minus marked lead⟩
      · exact ⟨_, parts, fun mark marked => .unsigned marked lead⟩
    · simp only [refuseNextNotOk] at ok

theorem afterFractionTaken {care : Care} {negative : Bool} {whole : List Char}
    {fraction : Option (List Char)} {s rest : List Char} {l : Literal}
    (ok : afterFraction care ⟨negative, whole, fraction, none⟩ s = .ok (l, rest)) :
    ∃ e text, l = ⟨negative, whole, fraction, e⟩ ∧ s = text ++ rest ∧ ExponentText e text := by
  unfold afterFraction at ok
  split at ok
  · split at ok
    · rename_i mark s marked
      obtain ⟨⟨e, t⟩, read, same⟩ := bindOk.mp ok
      cases same
      obtain ⟨text, rfl, spelled⟩ := exponentTaken read
      exact ⟨some e, mark :: text, rfl, rfl, spelled mark marked⟩
    · cases ok
      exact ⟨none, [], rfl, rfl, .unwritten⟩
  · cases ok
    exact ⟨none, [], rfl, rfl, .unwritten⟩

theorem afterWholeTaken {care : Care} {negative : Bool} {whole s rest : List Char} {l : Literal}
    (ok : afterWhole care ⟨negative, whole, none, none⟩ s = .ok (l, rest)) :
    ∃ f e fraction exponent, l = ⟨negative, whole, f, e⟩ ∧ s = fraction ++ exponent ++ rest ∧
      FractionText f fraction ∧ ExponentText e exponent := by
  unfold afterWhole at ok
  split at ok
  · rename_i s
    split at ok
    · split at ok
      · simp only [refuseNotOk] at ok
      · simp only [refuseNextNotOk] at ok
    · rename_i digits
      obtain ⟨e, exponent, rfl, parts, spelled⟩ := afterFractionTaken ok
      obtain ⟨split, all⟩ := digitsSplit s
      refine ⟨_, e, '.' :: s.takeWhile isDigit, exponent, rfl, ?_, .digits ⟨digits, all⟩, spelled⟩
      rw [List.cons_append, List.cons_append, List.append_assoc, ← parts, ← split]
  · obtain ⟨e, exponent, rfl, rfl, spelled⟩ := afterFractionTaken ok
    exact ⟨none, e, [], exponent, rfl, rfl, .unwritten, spelled⟩

theorem unsignedTaken {care : Care} {negative : Bool} {s rest : List Char} {l : Literal}
    (ok : unsigned care negative s = .ok (l, rest)) :
    ∃ text, s = text ++ rest ∧ l.negative = negative ∧ l.Unsigned text := by
  -- The whole digits have been taken, and were a zero alone or did not begin with one.
  have finish {whole t : List Char} (digits : IsDigits whole)
      (zero : whole.head? = some '0' → whole = ['0'])
      (ok : afterWhole care ⟨negative, whole, none, none⟩ t = .ok (l, rest)) :
      ∃ text, whole ++ t = text ++ rest ∧ l.negative = negative ∧ l.Unsigned text := by
    obtain ⟨f, e, fraction, exponent, rfl, rfl, inFraction, inExponent⟩ := afterWholeTaken ok
    exact ⟨whole ++ (fraction ++ exponent), by simp only [List.append_assoc], rfl,
      ⟨digits, zero, _, _, rfl, inFraction, inExponent⟩⟩
  unfold unsigned at ok
  split at ok
  · simp only [refuseNotOk] at ok
  · rename_i c s
    split at ok
    · rename_i isZero
      subst isZero
      have digits : IsDigits ['0'] :=
        ⟨List.cons_ne_nil _ _, List.forall_mem_singleton.mpr rfl⟩
      split at ok
      · split at ok
        · simp only [refuseNextNotOk] at ok
        · exact finish digits (fun _ => rfl) ok
      · exact finish digits (fun _ => rfl) ok
    · rename_i notZero
      split at ok
      · rename_i digit
        have parts := (digitsSplit (c :: s)).1
        rw [parts]
        refine finish (digitsLead digit) (fun zero => ?_) ok
        rw [List.takeWhile_cons_of_pos digit, List.head?_cons, Option.some.injEq] at zero
        exact absurd zero notZero
      · simp only [refuseNextNotOk] at ok

theorem digitsHead {digits : List Char} (all : IsDigits digits) :
    ∃ c more, digits = c :: more ∧ isDigit c = true := by
  obtain ⟨nonempty, each⟩ := all
  match digits, nonempty with
  | c :: more, _ => exact ⟨c, more, rfl, each c List.mem_cons_self⟩

section
variable {rest : List Char} (ends : EndsNumber rest)
include ends

theorem exponentDigits (care : Care) {ds : List Char} (digits : IsDigits ds) :
    exponentPart care (ds ++ rest) = .ok ((false, ds), rest) ∧
    exponentPart care ('+' :: (ds ++ rest)) = .ok ((false, ds), rest) ∧
    exponentPart care ('-' :: (ds ++ rest)) = .ok ((true, ds), rest) := by
  obtain ⟨taken, left⟩ := digitsTaken digits.2 fun c head => (ends c head).1
  obtain ⟨c, more, rfl, digit⟩ := digitsHead digits
  rw [List.cons_append] at taken left ⊢
  have noPlus : c ≠ '+' := by
    rintro rfl
    contradiction
  have noMinus : c ≠ '-' := by
    rintro rfl
    contradiction
  refine ⟨?_, ?_, ?_⟩ <;> simp [exponentPart, noPlus, noMinus, digit, taken, left]

theorem afterFractionSpelled (care : Care) {negative : Bool} {whole text : List Char}
    {f : Option (List Char)} {e : Option (Bool × List Char)} (spelled : ExponentText e text) :
    afterFraction care ⟨negative, whole, f, none⟩ (text ++ rest) =
      .ok (⟨negative, whole, f, e⟩, rest) := by
  cases spelled with
  | unwritten =>
    cases rest with
    | nil => rfl
    | cons c rest =>
      obtain ⟨_, _, lower, upper⟩ := ends c rfl
      rw [List.nil_append, afterFraction, if_neg (by simp [lower, upper])]
  | unsigned marked digits =>
    rw [List.cons_append, afterFraction, if_pos marked, (exponentDigits ends care digits).1]
    rfl
  | plus marked digits =>
    rw [List.cons_append, afterFraction, if_pos marked, List.cons_append,
      (exponentDigits ends care digits).2.1]
    rfl
  | minus marked digits =>
    rw [List.cons_append, afterFraction, if_pos marked, List.cons_append,
      (exponentDigits ends care digits).2.2]
    rfl

theorem exponentStops {e : Option (Bool × List Char)} {text : List Char}
    (spelled : ExponentText e text) :
    ∀ c, (text ++ rest).head? = some c → isDigit c = false ∧ c ≠ '.' := by
  intro c head
  cases spelled with
  | unwritten => exact ⟨(ends c head).1, (ends c head).2.1⟩
  | unsigned marked | plus marked | minus marked =>
    cases head
    rcases marked with rfl | rfl <;> decide

theorem afterWholeSpelled (care : Care) {negative : Bool} {whole fraction exponent : List Char}
    {f : Option (List Char)} {e : Option (Bool × List Char)} (inFraction : FractionText f fraction)
    (inExponent : ExponentText e exponent) :
    afterWhole care ⟨negative, whole, none, none⟩ (fraction ++ (exponent ++ rest)) =
      .ok (⟨negative, whole, f, e⟩, rest) := by
  have stops := exponentStops ends inExponent
  have after (f : Option (List Char)) :
      afterFraction care ⟨negative, whole, f, none⟩ (exponent ++ rest) =
        .ok (⟨negative, whole, f, e⟩, rest) := afterFractionSpelled ends care inExponent
  cases inFraction with
  | unwritten =>
    rw [List.nil_append]
    unfold afterWhole
    split
    · rename_i same
      exact absurd rfl (stops '.' (by rw [same]; rfl)).2
    · exact after none
  | digits digits =>
    obtain ⟨taken, left⟩ := digitsTaken digits.2 fun c head => (stops c head).1
    simp only [List.cons_append, afterWhole, taken, left]
    split
    · exact absurd rfl digits.1
    · exact after _

theorem unsignedSpelled (care : Care) {l : Literal} {text : List Char} (spelled : l.Unsigned text) :
    unsigned care l.negative (text ++ rest) = .ok (l, rest) := by
  obtain ⟨negative, whole, f, e⟩ := l
  obtain ⟨digits, zero, fraction, exponent, rfl, inFraction, inExponent⟩ := spelled
  have after : afterWhole care ⟨negative, whole, none, none⟩ (fraction ++ (exponent ++ rest)) =
      .ok (⟨negative, whole, f, e⟩, rest) := afterWholeSpelled ends care inFraction inExponent
  have stop : ∀ c, (fraction ++ (exponent ++ rest)).head? = some c → isDigit c = false := by
    intro c head
    cases inFraction with
    | unwritten => exact (exponentStops ends inExponent c head).1
    | digits => cases head; rfl
  obtain ⟨taken, left⟩ := digitsTaken digits.2 stop
  obtain ⟨c, more, parts, digit⟩ := digitsHead digits
  dsimp only at parts after taken left zero ⊢
  subst parts
  rw [List.append_assoc, List.append_assoc, List.cons_append] at *
  simp only [unsigned]
  split
  · rename_i isZero
    have alone := zero (by rw [isZero]; rfl)
    rw [isZero, List.cons.injEq] at alone
    obtain ⟨_, rfl⟩ := alone
    rw [List.nil_append]
    split
    · rename_i d s same
      rw [if_neg (by simp [stop d (by rw [same]; rfl)])]
      exact after
    · exact after
  · rw [taken, left]
    exact after

end

end SvelteTransform.Json
