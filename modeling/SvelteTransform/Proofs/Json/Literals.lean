import SvelteTransform.Json.Lexical

/-! What the digits of a number mean. A whole number that 64 bits have room for is itself. Any other
is binary: of its digits as many count as 64 bits have room for, and the power of ten that makes up
for the rest is added to the one that is written. -/
namespace SvelteTransform.Json.Reader

/-- Digits that go on from a number. Those that 64 bits have no more room for are left. -/
inductive Kept (start : Nat) : List Char → (value : Nat) → (left : List Char) → Prop where
  | intro {front left} (fits : Nat.ofDigitChars 10 front start < UInt64.size)
      (full : ∀ c more, left = c :: more →
        UInt64.size ≤ Nat.ofDigitChars 10 (front ++ [c]) start) :
      Kept start (front ++ left) (Nat.ofDigitChars 10 front start) left

inductive Power : Option (Bool × List Char) → Int → Prop where
  | unwritten : Power none 0
  | up {digits n} (value : Nat.ofDigitChars 10 digits 0 = n) (small : n < 0x80000000) :
      Power (some (false, digits)) n
  | down {digits n} (value : Nat.ofDigitChars 10 digits 0 = n) (small : n < 0x80000000) :
      Power (some (true, digits)) (-(n : Int))

namespace Literal

inductive IsBinary : Literal → Prop where
  | fraction {l} (written : l.fraction ≠ none) : IsBinary l
  | exponent {l} (written : l.exponent ≠ none) : IsBinary l
  | large {whole} (value : UInt64.size ≤ Nat.ofDigitChars 10 whole 0) :
      IsBinary ⟨false, whole, none, none⟩
  | signedZero {whole} (value : Nat.ofDigitChars 10 whole 0 = 0) :
      IsBinary ⟨true, whole, none, none⟩
  | signedLarge {whole} (value : UInt64.size / 2 < Nat.ofDigitChars 10 whole 0) :
      IsBinary ⟨true, whole, none, none⟩

inductive Significand (l : Literal) : Nat → Int → Prop where
  | intro {whole dropped significand unread} (first : Kept 0 l.whole whole dropped)
      (others : Kept whole (l.fraction.getD []) significand unread) :
      l.Significand significand
        (dropped.length - ((l.fraction.getD []).length - unread.length : Nat))

inductive Means : Literal → Number → Prop where
  | natural {whole n} (value : Nat.ofDigitChars 10 whole 0 = n) (fits : n < UInt64.size) :
      Means ⟨false, whole, none, none⟩ (.natural n fits)
  | negative {whole n} (value : Nat.ofDigitChars 10 whole 0 = n)
      (fits : 0 < n ∧ n ≤ UInt64.size / 2) : Means ⟨true, whole, none, none⟩ (.negative n fits)
  | binary {l significand point power n} (isBinary : l.IsBinary)
      (digits : l.Significand significand point) (written : Power l.exponent power)
      (scaled : realNumber l.negative significand (point + power) = some n) : Means l n
  /-- An exponent that is too large to tell is none for a zero, and down it makes one. -/
  | vanishing {l significand point down digits n} (counts : l.Significand significand point)
      (written : l.exponent = some (down, digits))
      (large : 0x80000000 ≤ Nat.ofDigitChars 10 digits 0)
      (vanishes : significand = 0 ∨ down = true) (zero : realNumber l.negative 0 0 = some n) :
      Means l n

end Literal

theorem valueGrows (digits : List Char) (value : Nat) :
    value ≤ Nat.ofDigitChars 10 digits value := by
  rw [Nat.ofDigitChars_eq_ofDigitChars_zero]
  exact Nat.le_add_right_of_le (Nat.le_mul_of_pos_left value (Nat.pow_pos (by decide)))

theorem nextValue (c : Char) (digits : List Char) (value : Nat) :
    Nat.ofDigitChars 10 (c :: digits) value =
      Nat.ofDigitChars 10 digits (value * 10 + digitValue c) := by
  rw [Nat.ofDigitChars_cons, Nat.mul_comm 10 value, digitValue]

theorem keptAbsorbed {start value : Nat} {digits left : List Char}
    (kept : Kept start digits value left) :
    absorb start digits = (value, digits.length - left.length) := by
  obtain @⟨front, left, fits, full⟩ := kept
  induction front generalizing start with
  | nil =>
    cases left with
    | nil => simp [absorb]
    | cons c more =>
      have tooLarge := full c more rfl
      rw [List.nil_append, nextValue, Nat.ofDigitChars_nil] at tooLarge
      simp [absorb, Nat.not_lt_of_le tooLarge]
  | cons c front ih =>
    simp only [List.cons_append, nextValue] at fits full ⊢
    have next : start * 10 + digitValue c < UInt64.size :=
      Nat.lt_of_le_of_lt (valueGrows front _) fits
    have more := ih fits full
    simp only [absorb, if_pos next, more, List.length_cons, List.length_append]
    rw [Nat.add_sub_cancel, Nat.add_right_comm, Nat.add_sub_cancel]

theorem keptExists {start : Nat} (fits : start < UInt64.size) (digits : List Char) :
    ∃ value left, Kept start digits value left := by
  induction digits generalizing start with
  | nil => exact ⟨_, [], @Kept.intro start [] [] fits nofun⟩
  | cons c digits ih =>
    by_cases next : start * 10 + digitValue c < UInt64.size
    · obtain ⟨_, left, @⟨front, _, fits, full⟩⟩ := ih next
      rw [← nextValue] at fits
      refine ⟨_, left, @Kept.intro start (c :: front) left fits fun d more same => ?_⟩
      rw [List.cons_append, nextValue]
      exact full d more same
    · refine ⟨start, c :: digits, @Kept.intro start [] (c :: digits) fits fun d more same => ?_⟩
      cases same
      rw [List.nil_append, nextValue, Nat.ofDigitChars_nil]
      exact Nat.le_of_not_lt next

theorem keptAll {start value : Nat} {digits left : List Char}
    (kept : Kept start digits value left) :
    left = [] ∧ value = Nat.ofDigitChars 10 digits start ∨
      left ≠ [] ∧ UInt64.size ≤ Nat.ofDigitChars 10 digits start := by
  obtain @⟨front, left, fits, full⟩ := kept
  cases left with
  | nil => exact .inl ⟨rfl, by rw [List.append_nil]⟩
  | cons c more =>
    have grows := valueGrows more (Nat.ofDigitChars 10 (front ++ [c]) start)
    rw [← Nat.ofDigitChars_append, ← List.append_cons] at grows
    exact .inr ⟨List.cons_ne_nil c more, Nat.le_trans (full c more rfl) grows⟩

theorem exponentSmall {value : Nat} {digits : List Char}
    (small : Nat.ofDigitChars 10 digits value < 0x80000000) :
    exponentValue value digits = .ok (Nat.ofDigitChars 10 digits value) := by
  induction digits generalizing value with
  | nil => rw [exponentValue, Nat.ofDigitChars_nil]
  | cons c digits ih =>
    rw [nextValue] at small ⊢
    have next := Nat.lt_of_le_of_lt (valueGrows digits _) small
    simp only [exponentValue, if_pos next, ih small]

theorem exponentLarge {value : Nat} {digits : List Char} (fits : value < 0x80000000)
    (large : 0x80000000 ≤ Nat.ofDigitChars 10 digits value) :
    ∃ more, exponentValue value digits = .error more := by
  induction digits generalizing value with
  | nil =>
    rw [Nat.ofDigitChars_nil] at large
    omega
  | cons c digits ih =>
    rw [nextValue] at large
    simp only [exponentValue]
    split
    · rename_i next
      exact ih next large
    · exact ⟨_, rfl⟩

theorem inRangeOk {x : Option Number} {n : Number} : inRange x = .ok n ↔ x = some n := by
  cases x with
  | none => exact ⟨nofun, nofun⟩
  | some m => rw [inRange, Except.ok.injEq, Option.some.injEq]

theorem keptFits {start value : Nat} {digits left : List Char}
    (kept : Kept start digits value left) : value < UInt64.size := by
  cases kept with
  | intro fits full => exact fits

theorem keptWithin {start value : Nat} {digits left : List Char}
    (kept : Kept start digits value left) : left.length ≤ digits.length := by
  cases kept
  rw [List.length_append]
  exact Nat.le_add_left _ _

namespace Literal
variable {l : Literal}

theorem countedKept {whole significand : Nat} {dropped unread : List Char}
    (first : Kept 0 l.whole whole dropped)
    (others : Kept whole (l.fraction.getD []) significand unread) :
    l.counted = ⟨significand, dropped.length,
      dropped.length - ((l.fraction.getD []).length - unread.length : Nat)⟩ := by
  rw [counted, keptAbsorbed first]
  dsimp only
  rw [keptAbsorbed others, Nat.sub_sub_self (keptWithin first)]

theorem significandCounted {significand : Nat} {point : Int}
    (digits : l.Significand significand point) :
    l.counted.significand = significand ∧ l.counted.point = point := by
  obtain ⟨first, others⟩ := digits
  rw [countedKept first others]
  exact ⟨rfl, rfl⟩

theorem significandExists (l : Literal) : ∃ significand point, l.Significand significand point := by
  obtain ⟨whole, dropped, first⟩ := @keptExists 0 (by decide) l.whole
  obtain ⟨_, _, others⟩ := keptExists (keptFits first) (l.fraction.getD [])
  exact ⟨_, _, .intro first others⟩

theorem wholeCounted (negative : Bool) (whole : List Char)
    (exponent : Option (Bool × List Char)) :
    counted ⟨negative, whole, none, exponent⟩ = ⟨Nat.ofDigitChars 10 whole 0, 0, 0⟩ ∧
        Nat.ofDigitChars 10 whole 0 < UInt64.size ∨
      (counted ⟨negative, whole, none, exponent⟩).dropped ≠ 0 ∧
        UInt64.size ≤ Nat.ofDigitChars 10 whole 0 := by
  obtain ⟨value, dropped, first⟩ := @keptExists 0 (by decide) whole
  have fits := keptFits first
  have others : Kept value [] value [] := @Kept.intro value [] [] fits nofun
  have same : counted ⟨negative, whole, none, exponent⟩ = ⟨value, dropped.length, _⟩ :=
    countedKept first others
  rcases keptAll first with ⟨rfl, rfl⟩ | ⟨left, large⟩
  · exact .inl ⟨same, fits⟩
  · refine .inr ⟨?_, large⟩
    rw [same]
    exact fun nothing => left (List.eq_nil_of_length_eq_zero nothing)

theorem numberNatural {whole : List Char} (fits : Nat.ofDigitChars 10 whole 0 < UInt64.size) :
    number ⟨false, whole, none, none⟩ = .ok (.natural (Nat.ofDigitChars 10 whole 0) fits) := by
  rcases wholeCounted false whole none with ⟨same, -⟩ | ⟨-, large⟩
  · simp [number, same, fits]
  · exact absurd fits (Nat.not_lt_of_le large)

theorem numberNegative {whole : List Char}
    (fits : 0 < Nat.ofDigitChars 10 whole 0 ∧ Nat.ofDigitChars 10 whole 0 ≤ UInt64.size / 2) :
    number ⟨true, whole, none, none⟩ = .ok (.negative (Nat.ofDigitChars 10 whole 0) fits) := by
  rcases wholeCounted true whole none with ⟨same, -⟩ | ⟨-, large⟩
  · simp [number, same, fits]
  · exact absurd (Nat.le_trans large fits.2) (by decide)

theorem numberBinary {significand : Nat} {point power : Int} (isBinary : l.IsBinary)
    (digits : l.Significand significand point) (written : Power l.exponent power) :
    l.number = inRange (realNumber l.negative significand (point + power)) := by
  obtain ⟨rfl, rfl⟩ := significandCounted digits
  obtain ⟨negative, whole, fraction, exponent⟩ := l
  cases written with
  | up value small =>
    subst value
    simp [number, exponentSmall small]
  | down value small =>
    subst value
    simp [number, exponentSmall small]
  | unwritten =>
    rw [Int.add_zero]
    cases isBinary with
    | fraction written => simp [number, Option.isSome_iff_ne_none.mpr written]
    | exponent written => exact absurd rfl written
    | large value =>
      rcases wholeCounted false whole none with ⟨-, fits⟩ | ⟨dropped, -⟩
      · exact absurd fits (Nat.not_lt_of_le value)
      · simp [number, dropped]
    | signedZero value =>
      rcases wholeCounted true whole none with ⟨same, -⟩ | ⟨-, large⟩
      · simp [number, same, value]
      · rw [value] at large
        exact absurd large (by decide)
    | signedLarge value =>
      rcases wholeCounted true whole none with ⟨same, -⟩ | ⟨dropped, -⟩
      · simp [number, same, Nat.not_le_of_lt value]
      · simp [number, dropped]

theorem numberFar {significand : Nat} {point : Int} {down : Bool} {digits : List Char}
    (counts : l.Significand significand point) (written : l.exponent = some (down, digits))
    (large : 0x80000000 ≤ Nat.ofDigitChars 10 digits 0) :
    ∃ more, l.number = if significand = 0 ∨ down = true then inRange (realNumber l.negative 0 0)
      else .error more := by
  obtain ⟨rfl, rfl⟩ := significandCounted counts
  obtain ⟨more, tooLarge⟩ := exponentLarge (by decide) large
  exact ⟨more, by simp only [number, written, tooLarge]⟩

inductive Form : Literal → Prop where
  | natural {whole} (fits : Nat.ofDigitChars 10 whole 0 < UInt64.size) :
      Form ⟨false, whole, none, none⟩
  | negative {whole} (fits : 0 < Nat.ofDigitChars 10 whole 0 ∧
      Nat.ofDigitChars 10 whole 0 ≤ UInt64.size / 2) : Form ⟨true, whole, none, none⟩
  | binary {l power} (isBinary : l.IsBinary) (written : Power l.exponent power) : Form l
  | far {l down digits} (written : l.exponent = some (down, digits))
      (large : 0x80000000 ≤ Nat.ofDigitChars 10 digits 0) : Form l

theorem formExists (l : Literal) : Form l := by
  obtain ⟨negative, whole, fraction, exponent⟩ := l
  cases exponent with
  | some exponent =>
    obtain ⟨down, digits⟩ := exponent
    rcases Nat.lt_or_ge (Nat.ofDigitChars 10 digits 0) 0x80000000 with small | large
    · cases down with
      | false => exact .binary (.exponent nofun) (.up rfl small)
      | true => exact .binary (.exponent nofun) (.down rfl small)
    · exact .far rfl large
  | none =>
    cases fraction with
    | some fraction => exact .binary (.fraction nofun) .unwritten
    | none =>
      cases negative with
      | false =>
        rcases Nat.lt_or_ge (Nat.ofDigitChars 10 whole 0) UInt64.size with fits | large
        · exact .natural fits
        · exact .binary (.large large) .unwritten
      | true =>
        rcases Nat.eq_zero_or_pos (Nat.ofDigitChars 10 whole 0) with zero | positive
        · exact .binary (.signedZero zero) .unwritten
        · rcases Nat.lt_or_ge (UInt64.size / 2) (Nat.ofDigitChars 10 whole 0) with large | fits
          · exact .binary (.signedLarge large) .unwritten
          · exact .negative ⟨positive, fits⟩

/-- A number is read as what it means. -/
theorem numberMeans {n : Number} : l.number = .ok n ↔ l.Means n := by
  constructor
  · intro ok
    obtain ⟨significand, point, digits⟩ := significandExists l
    cases formExists l with
    | natural fits =>
      rw [numberNatural fits] at ok
      cases ok
      exact .natural rfl fits
    | negative fits =>
      rw [numberNegative fits] at ok
      cases ok
      exact .negative rfl fits
    | binary isBinary written =>
      rw [numberBinary isBinary digits written, inRangeOk] at ok
      exact .binary isBinary digits written ok
    | far written large =>
      obtain ⟨more, far⟩ := numberFar digits written large
      rw [far] at ok
      split at ok
      · rename_i vanishes
        exact .vanishing digits written large vanishes (inRangeOk.mp ok)
      · cases ok
  · intro means
    cases means with
    | natural value fits =>
      subst value
      exact numberNatural fits
    | negative value fits =>
      subst value
      exact numberNegative fits
    | binary isBinary digits written scaled =>
      rw [numberBinary isBinary digits written, scaled]
      rfl
    | vanishing counts written large vanishes zero =>
      obtain ⟨more, far⟩ := numberFar counts written large
      rw [far, if_pos vanishes, zero]
      rfl

end Literal
end SvelteTransform.Json.Reader
