import Mathlib.Data.List.Induction
import SvelteTransform.Options.Basic
import SvelteTransform.Proofs.Text.Trim

/-! The major number of a version is the one that its first digits spell, unless something other
than a point comes right after them. What stands before them counts for nothing, nor does anything
after the point. -/
namespace SvelteTransform.Version

def Digitless (text : List Char) : Prop := ∀ c ∈ text, isDigit c = false

instance (text : List Char) : Decidable (Digitless text) := List.decidableBAll _ text

def IsRun (digits : List Char) : Prop := digits ≠ [] ∧ ∀ c ∈ digits, isDigit c = true

inductive Numbered : List Char → (digits : List Char) → Prop where
  | intro {before digits after} (first : Digitless before) (run : IsRun digits)
      (stop : after = [] ∨ ∃ more, after = '.' :: more) :
      Numbered (before ++ (digits ++ after)) digits

inductive Interrupted : List Char → Prop where
  | intro {before digits c after} (first : Digitless before) (run : IsRun digits)
      (noDigit : isDigit c = false) (noPoint : c ≠ '.') :
      Interrupted (before ++ (digits ++ c :: after))

structure Alike (v w : Version) : Prop where
  major : v.major = w.major
  legacy : v.isLegacy = w.isLegacy

structure MajorLaw (v : Version) : Prop where
  number : ∀ n, v.major = some n ↔ ∃ digits, Numbered v.text.toList digits ∧
    Nat.ofDigitChars 10 digits 0 = n ∧ n < UInt64.size
  unnumbered : v.major = none ↔ Digitless v.text.toList ∨ Interrupted v.text.toList ∨
    ∃ digits, Numbered v.text.toList digits ∧ UInt64.size ≤ Nat.ofDigitChars 10 digits 0
  legacy : v.isLegacy = true ↔
    ∃ zeros, Numbered v.text.toList (List.replicate zeros '0' ++ ['3'])
  anyPrefix : ∀ before : String, Digitless before.toList → Alike ⟨before ++ v.text⟩ v
  anyMinor : ∀ front minor other : String, v.text = front ++ "." ++ minor →
    (∃ c ∈ front.toList, isDigit c = true) → Alike ⟨front ++ "." ++ other⟩ v
  hinted : ∀ o : Options, o.version = some v → ∀ installed, o.isLegacy installed = v.isLegacy

theorem Numbered.isRun {text digits : List Char} (numbered : Numbered text digits) :
    IsRun digits := by
  cases numbered with
  | intro first run stop => exact run

theorem numberRun {digits : List Char} (run : IsRun digits) : number? digits =
    if Nat.ofDigitChars 10 digits 0 < UInt64.size then some (Nat.ofDigitChars 10 digits 0)
    else none := by
  have value : digits.foldl (fun n c => n * 10 + (c.toNat - '0'.toNat)) 0 =
      Nat.ofDigitChars 10 digits 0 := by
    rw [Nat.ofDigitChars_eq_foldl]
    simp only [Nat.mul_comm]
  have all : digits.all isDigit = true := List.all_eq_true.mpr run.2
  rw [number?, if_pos ⟨run.1, all⟩]
  dsimp only
  rw [value]

theorem numberOther {word : List Char} {c : Char} (member : c ∈ word)
    (noDigit : isDigit c = false) : number? word = none := by
  rw [number?, if_neg]
  rintro ⟨-, all⟩
  rw [List.all_eq_true.mp all c member] at noDigit
  cases noDigit

theorem lastDigit (front : List Char) (d : Char) : Nat.ofDigitChars 10 (front ++ [d]) 0 =
    10 * Nat.ofDigitChars 10 front 0 + (d.toNat - '0'.toNat) := by
  rw [Nat.ofDigitChars_append, Nat.ofDigitChars_cons, Nat.ofDigitChars_nil]

theorem sameDigit {d e : Char} (digit : isDigit d = true) (other : isDigit e = true)
    (same : d.toNat - '0'.toNat = e.toNat - '0'.toNat) : d = e := by
  have low {c : Char} (isOne : isDigit c = true) : '0'.toNat ≤ c.toNat := by
    rw [isDigit, Bool.and_eq_true, decide_eq_true_eq] at isOne
    exact isOne.1
  have lowD := low digit
  have lowE := low other
  exact Char.toNat_inj.mp (by omega)

theorem zerosOnly {digits : List Char} (all : ∀ c ∈ digits, isDigit c = true)
    (zero : Nat.ofDigitChars 10 digits 0 = 0) : digits = List.replicate digits.length '0' := by
  refine List.eq_replicate_iff.mpr ⟨rfl, ?_⟩
  -- From the end, since a number is ten times its front and the last digit.
  induction digits using List.reverseRecOn with
  | nil => exact nofun
  | append_singleton front d ih =>
    rw [lastDigit] at zero
    have isZero : d = '0' :=
      sameDigit (all d (List.mem_append_right _ (List.mem_singleton_self d))) (by decide) (by omega)
    have others := ih (fun c member => all c (List.mem_append_left _ member)) (by omega)
    intro c member
    rcases List.mem_append.mp member with inFront | last
    · exact others c inFront
    · rw [List.mem_singleton.mp last, isZero]

theorem spellsThree {digits : List Char} (run : IsRun digits) :
    Nat.ofDigitChars 10 digits 0 = 3 ↔ ∃ zeros, digits = List.replicate zeros '0' ++ ['3'] := by
  constructor
  · intro three
    cases digits using List.reverseRecOn with
    | nil => exact absurd rfl run.1
    | append_singleton front d =>
      rw [lastDigit] at three
      have zeros := zerosOnly (fun c member => run.2 c (List.mem_append_left _ member)) (by omega)
      have last := run.2 d (List.mem_append_right _ (List.mem_singleton_self d))
      have spelled : d.toNat - '0'.toNat = 3 := by omega
      have isThree : d = '3' := sameDigit last (by decide) spelled
      exact ⟨front.length, by rw [isThree, ← zeros]⟩
  · rintro ⟨zeros, rfl⟩
    rw [lastDigit, Nat.ofDigitChars_replicate_zero]
    rfl

def word (text : List Char) : List Char :=
  (text.dropWhile (!isDigit ·)).takeWhile (· != '.')

theorem majorWord (v : Version) : v.major = number? (word v.text.toList) := rfl

theorem digitlessDropped {before : List Char} (first : Digitless before) :
    ∀ c ∈ before, (!isDigit c) = true := by
  intro c member
  rw [first c member]
  rfl

theorem wordBehind {before : List Char} (first : Digitless before) (text : List Char) :
    word (before ++ text) = word text := by
  rw [word, List.dropWhile_append_of_pos (digitlessDropped first), word]

theorem wordDigitless {text : List Char} (digitless : Digitless text) : word text = [] := by
  have same := wordBehind digitless []
  rw [List.append_nil] at same
  exact same

theorem wordRun {digits : List Char} (run : IsRun digits) (after : List Char) :
    word (digits ++ after) = digits ++ after.takeWhile (· != '.') := by
  obtain ⟨d, more, rfl⟩ := List.exists_cons_of_ne_nil run.1
  have noPoint : ∀ c ∈ d :: more, (c != '.') = true := by
    intro c member
    rw [bne_iff_ne]
    rintro rfl
    cases run.2 '.' member
  rw [word, List.cons_append, List.dropWhile_cons_of_neg, ← List.cons_append,
    List.takeWhile_append_of_pos noPoint]
  rw [run.2 d List.mem_cons_self]
  exact nofun

theorem wordNumbered {text digits : List Char} (numbered : Numbered text digits) :
    word text = digits := by
  cases numbered with
  | intro first run stop =>
    rw [wordBehind first, wordRun run]
    rcases stop with rfl | ⟨more, rfl⟩
    · exact List.append_nil digits
    · exact List.append_nil digits

theorem wordInterrupted {text : List Char} (interrupted : Interrupted text) :
    ∃ c ∈ word text, isDigit c = false := by
  cases interrupted with
  | @intro before digits c after first run noDigit noPoint =>
    refine ⟨c, ?_, noDigit⟩
    have goesOn : (c != '.') = true := bne_iff_ne.mpr noPoint
    rw [wordBehind first, wordRun run, List.takeWhile_cons, goesOn]
    exact List.mem_append_right _ List.mem_cons_self

theorem firstRun (text : List Char) : Digitless text ∨ ∃ before digits after,
    text = before ++ (digits ++ after) ∧ Digitless before ∧ IsRun digits ∧
      ∀ c, after.head? = some c → isDigit c = false := by
  have first : Digitless (text.takeWhile (!isDigit ·)) := by
    intro c member
    simpa using List.all_eq_true.mp List.all_takeWhile c member
  have whole : text = text.takeWhile (!isDigit ·) ++ text.dropWhile (!isDigit ·) :=
    List.takeWhile_append_dropWhile.symm
  cases left : text.dropWhile (!isDigit ·) with
  | nil =>
    rw [left, List.append_nil] at whole
    rw [← whole] at first
    exact .inl first
  | cons d more =>
    have digit : isDigit d = true := by simpa using Text.dropWhileStop d (congrArg List.head? left)
    refine .inr ⟨_, (d :: more).takeWhile isDigit, (d :: more).dropWhile isDigit, ?_, first,
      ⟨?_, List.all_eq_true.mp List.all_takeWhile⟩, Text.dropWhileStop⟩
    · rw [List.takeWhile_append_dropWhile, ← left]
      exact whole
    · rw [List.takeWhile_cons_of_pos digit]
      exact List.cons_ne_nil _ _

theorem pointStops (front minor : List Char) :
    (front ++ '.' :: minor).takeWhile (· != '.') = front.takeWhile (· != '.') := by
  induction front with
  | nil => rfl
  | cons c front ih => rw [List.cons_append, List.takeWhile_cons, List.takeWhile_cons, ih]

theorem wordPoint {front : List Char} (digit : ∃ c ∈ front, isDigit c = true)
    (minor : List Char) : word (front ++ '.' :: minor) = word front := by
  rcases firstRun front with digitless | ⟨before, digits, after, rfl, first, run, -⟩
  · obtain ⟨c, member, isOne⟩ := digit
    rw [digitless c member] at isOne
    cases isOne
  · rw [List.append_assoc, List.append_assoc, wordBehind first, wordBehind first, wordRun run,
      wordRun run, pointStops]

theorem threeForms (text : List Char) :
    Digitless text ∨ Interrupted text ∨ ∃ digits, Numbered text digits := by
  rcases firstRun text with digitless | ⟨before, digits, after, rfl, first, run, ends⟩
  · exact .inl digitless
  · cases after with
    | nil => exact .inr (.inr ⟨digits, .intro first run (.inl rfl)⟩)
    | cons c more =>
      by_cases point : c = '.'
      · rw [point]
        exact .inr (.inr ⟨digits, .intro first run (.inr ⟨more, rfl⟩)⟩)
      · exact .inr (.inl (.intro first run (ends c rfl) point))

section
variable {v : Version}

theorem majorNumbered {digits : List Char} (numbered : Numbered v.text.toList digits) :
    v.major = if Nat.ofDigitChars 10 digits 0 < UInt64.size then
      some (Nat.ofDigitChars 10 digits 0) else none := by
  rw [majorWord, wordNumbered numbered, numberRun numbered.isRun]

theorem majorDigitless (digitless : Digitless v.text.toList) : v.major = none := by
  rw [majorWord, wordDigitless digitless]
  rfl

theorem majorInterrupted (interrupted : Interrupted v.text.toList) : v.major = none := by
  obtain ⟨c, member, noDigit⟩ := wordInterrupted interrupted
  rw [majorWord, numberOther member noDigit]

theorem majorSpelled {n : Nat} : v.major = some n ↔ ∃ digits, Numbered v.text.toList digits ∧
    Nat.ofDigitChars 10 digits 0 = n ∧ n < UInt64.size := by
  constructor
  · intro found
    rcases threeForms v.text.toList with digitless | interrupted | ⟨digits, numbered⟩
    · rw [majorDigitless digitless] at found
      cases found
    · rw [majorInterrupted interrupted] at found
      cases found
    · rw [majorNumbered numbered] at found
      split at found
      · rename_i fits
        cases found
        exact ⟨digits, numbered, rfl, fits⟩
      · cases found
  · rintro ⟨digits, numbered, rfl, fits⟩
    rw [majorNumbered numbered, if_pos fits]

theorem majorMissing : v.major = none ↔ Digitless v.text.toList ∨ Interrupted v.text.toList ∨
    ∃ digits, Numbered v.text.toList digits ∧ UInt64.size ≤ Nat.ofDigitChars 10 digits 0 := by
  constructor
  · intro missing
    rcases threeForms v.text.toList with digitless | interrupted | ⟨digits, numbered⟩
    · exact .inl digitless
    · exact .inr (.inl interrupted)
    · rw [majorNumbered numbered] at missing
      split at missing
      · cases missing
      · rename_i large
        exact .inr (.inr ⟨digits, numbered, Nat.le_of_not_lt large⟩)
  · rintro (digitless | interrupted | ⟨digits, numbered, large⟩)
    · exact majorDigitless digitless
    · exact majorInterrupted interrupted
    · rw [majorNumbered numbered, if_neg (Nat.not_lt_of_le large)]

theorem legacySpelled : v.isLegacy = true ↔
    ∃ zeros, Numbered v.text.toList (List.replicate zeros '0' ++ ['3']) := by
  rw [isLegacy, decide_eq_true_eq, majorSpelled]
  constructor
  · rintro ⟨digits, numbered, three, -⟩
    obtain ⟨zeros, rfl⟩ := (spellsThree numbered.isRun).mp three
    exact ⟨zeros, numbered⟩
  · rintro ⟨zeros, numbered⟩
    exact ⟨_, numbered, (spellsThree numbered.isRun).mpr ⟨zeros, rfl⟩, by decide⟩

theorem wordAlike {w : Version} (same : word v.text.toList = word w.text.toList) : Alike v w := by
  have major : v.major = w.major := by rw [majorWord, majorWord, same]
  exact ⟨major, by rw [isLegacy, isLegacy, major]⟩

end

/-- Of every text: which number it gives if any, when that is 3, and what of the text has no
effect. A version that the options give is the only one that counts. -/
theorem majorLaw (v : Version) : MajorLaw v where
  number _ := majorSpelled
  unnumbered := majorMissing
  legacy := legacySpelled
  anyPrefix before digitless := by
    apply wordAlike
    rw [String.toList_append, wordBehind digitless]
  anyMinor front minor other whole digit := by
    apply wordAlike
    rw [whole]
    simp only [String.toList_append, List.append_assoc]
    exact (wordPoint digit other.toList).trans (wordPoint digit minor.toList).symm
  hinted o given installed := by rw [Options.isLegacy, given]

theorem rangeLegacy : Numbered "^03.59.2".toList "03".toList ∧
    Version.isLegacy ⟨"^03.59.2"⟩ = true ∧ Digitless "svelte@".toList ∧
    Alike ⟨"svelte@" ++ "^03.59.2"⟩ ⟨"^03.59.2"⟩ := by
  have numbered : Numbered ("^".toList ++ ("03".toList ++ ".59.2".toList)) "03".toList :=
    .intro (by decide) ⟨nofun, List.all_eq_true.mp rfl⟩ (.inr ⟨"59.2".toList, rfl⟩)
  have digitless : Digitless "svelte@".toList := by decide
  exact ⟨numbered, (majorLaw ⟨"^03.59.2"⟩).legacy.mpr ⟨1, numbered⟩, digitless,
    (majorLaw ⟨"^03.59.2"⟩).anyPrefix "svelte@" digitless⟩

end SvelteTransform.Version
