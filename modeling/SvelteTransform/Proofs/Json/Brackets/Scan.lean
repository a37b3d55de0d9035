import SvelteTransform.Json.Lexical

/-! Texts as a scan sees them that knows strings and brackets and nothing else of JSON. Every text
that is printed or read in full closes the brackets it opens, and outside its strings it has only
the few characters of blanks, words, numbers and separators. So two such texts can be compared
without being read: neither is a proper beginning of the other. -/
namespace SvelteTransform.Json.Brackets
open Reader

inductive Side where
  | outside
  | inside
  | escaped
  deriving DecidableEq, Repr

structure Scan where
  side : Side
  depth : Nat
  deriving DecidableEq, Repr

def isOpening (c : Char) : Bool := c = '[' || c = '\x7b'
def isClosing (c : Char) : Bool := c = ']' || c = '\x7d'
def isEscape (c : Char) : Bool := c = 'u' || (simpleEscape? c).isSome

def isPlain (c : Char) : Bool :=
  isSpace c || isDigit c ||
  ['+', '-', '.', 'e', 'E', ',', ':', 'n', 'u', 'l', 't', 'r', 'f', 'a', 's'].contains c

def Plain (text : List Char) : Prop := ∀ c ∈ text, isPlain c = true

instance (text : List Char) : Decidable (Plain text) :=
  List.decidableBAll _ text

def step (scan : Scan) (c : Char) : Option Scan :=
  match scan.side with
  | .outside =>
    if c = '"' then some { scan with side := .inside }
    else if isOpening c then some { scan with depth := scan.depth + 1 }
    else if isClosing c then
      match scan.depth with
      | 0 => none
      | depth + 1 => some { scan with depth }
    else if isPlain c then some scan
    else none
  | .inside =>
    if c = '"' then some { scan with side := .outside }
    else if c = '\\' then some { scan with side := .escaped }
    else some scan
  | .escaped => if isEscape c then some { scan with side := .inside } else none

def run (scan : Scan) (text : List Char) : Option Scan := text.foldlM step scan

theorem runCons (scan : Scan) (c : Char) (text : List Char) :
    run scan (c :: text) = (step scan c).bind (run · text) := rfl

theorem runAppend (scan : Scan) (first second : List Char) :
    run scan (first ++ second) = (run scan first).bind (run · second) :=
  List.foldlM_append

theorem stepOpening {c : Char} (opening : isOpening c = true) (depth : Nat) :
    step ⟨.outside, depth⟩ c = some ⟨.outside, depth + 1⟩ := by
  have solid : c ≠ '"' := by rintro rfl; contradiction
  simp only [step, if_neg solid, if_pos opening]

theorem stepClosing {c : Char} (closing : isClosing c = true) (depth : Nat) :
    step ⟨.outside, depth + 1⟩ c = some ⟨.outside, depth⟩ := by
  have solid : c ≠ '"' := by rintro rfl; contradiction
  have notOpening : ¬ isOpening c = true := by
    intro opening
    simp only [isOpening, isClosing, Bool.or_eq_true, decide_eq_true_eq] at opening closing
    rcases closing with rfl | rfl <;> simp at opening
  simp only [step, if_neg solid, if_neg notOpening, if_pos closing]

theorem stepTooFar {c : Char} (closing : isClosing c = true) : step ⟨.outside, 0⟩ c = none := by
  simp only [isClosing, Bool.or_eq_true, decide_eq_true_eq] at closing
  rcases closing with rfl | rfl <;> rfl

theorem stepPlain {c : Char} (plain : isPlain c = true) (depth : Nat) :
    step ⟨.outside, depth⟩ c = some ⟨.outside, depth⟩ := by
  have solid : c ≠ '"' := by rintro rfl; contradiction
  have notOpening : ¬ isOpening c = true := by
    simp only [isOpening, Bool.or_eq_true, decide_eq_true_eq]
    rintro (rfl | rfl) <;> contradiction
  have notClosing : ¬ isClosing c = true := by
    simp only [isClosing, Bool.or_eq_true, decide_eq_true_eq]
    rintro (rfl | rfl) <;> contradiction
  simp only [step, if_neg solid, if_neg notOpening, if_neg notClosing, if_pos plain]

theorem stepInside {c : Char} (notQuote : c ≠ '"') (notBackslash : c ≠ '\\') (depth : Nat) :
    step ⟨.inside, depth⟩ c = some ⟨.inside, depth⟩ := by
  simp only [step, if_neg notQuote, if_neg notBackslash]

theorem stepDeeper {scan next : Scan} {c : Char} (ok : step scan c = some next) (k : Nat) :
    step ⟨scan.side, scan.depth + k⟩ c = some ⟨next.side, next.depth + k⟩ := by
  obtain ⟨side, depth⟩ := scan
  cases side <;> cases depth <;> grind [step]

theorem runDeeper {scan last : Scan} {text : List Char} (ok : run scan text = some last)
    (k : Nat) : run ⟨scan.side, scan.depth + k⟩ text = some ⟨last.side, last.depth + k⟩ := by
  induction text generalizing scan with
  | nil =>
    cases Option.some.inj ok
    rfl
  | cons c more ih =>
    rw [runCons, Option.bind_eq_some_iff] at ok ⊢
    obtain ⟨next, moved, rest⟩ := ok
    exact ⟨_, stepDeeper moved k, ih rest⟩

def Closes (side : Side) (text rest : List Char) : Prop :=
  ∃ used, text = used ++ rest ∧ run ⟨side, 0⟩ used = some ⟨.outside, 0⟩

theorem closesNothing (text : List Char) : Closes .outside text text := ⟨[], rfl, rfl⟩

theorem closesStep {side next : Side} {c : Char} {text rest : List Char}
    (moved : step ⟨side, 0⟩ c = some ⟨next, 0⟩) (more : Closes next text rest) :
    Closes side (c :: text) rest := by
  obtain ⟨used, rfl, ran⟩ := more
  exact ⟨c :: used, rfl, by rw [runCons, moved]; exact ran⟩

theorem Closes.trans {side : Side} {text between rest : List Char}
    (first : Closes side text between) (second : Closes .outside between rest) :
    Closes side text rest := by
  obtain ⟨used, rfl, ran⟩ := first
  obtain ⟨more, rfl, ranMore⟩ := second
  refine ⟨used ++ more, by rw [List.append_assoc], ?_⟩
  rw [runAppend, ran]
  exact ranMore

theorem closesPlain {used : List Char} (plain : Plain used) (rest : List Char) :
    Closes .outside (used ++ rest) rest := by
  induction used with
  | nil => exact closesNothing rest
  | cons c more ih =>
    exact closesStep (stepPlain (plain c List.mem_cons_self) 0)
      (ih fun d member => plain d (List.mem_cons_of_mem c member))

theorem closesQuote {text rest : List Char} (inner : Closes .inside text rest) :
    Closes .outside ('"' :: text) rest := closesStep rfl inner

theorem closesAround (closing : Char) {opening : Char} {text rest : List Char}
    (opens : isOpening opening = true) (closes : isClosing closing = true)
    (inner : Closes .outside text (closing :: rest)) : Closes .outside (opening :: text) rest := by
  obtain ⟨used, rfl, ran⟩ := inner
  refine ⟨opening :: (used ++ [closing]), by simp, ?_⟩
  rw [runCons, stepOpening opens, Option.bind_some, runAppend, runDeeper ran 1, Option.bind_some,
    runCons, stepClosing closes]
  rfl

def Enclosed (text : List Char) : Prop :=
  ∃ opening body closing, text = opening :: (body ++ [closing]) ∧ isOpening opening = true ∧
    isClosing closing = true ∧ run ⟨.outside, 0⟩ body = some ⟨.outside, 0⟩

theorem enclosedOfCloses {opening closing : Char} {text : List Char}
    (opens : isOpening opening = true) (closes : isClosing closing = true)
    (inner : Closes .outside text [closing]) : Enclosed (opening :: text) := by
  obtain ⟨body, rfl, ran⟩ := inner
  exact ⟨opening, body, closing, rfl, opens, closes, ran⟩

theorem Enclosed.ends {text : List Char} (enclosed : Enclosed text) :
    ∃ c, text.getLast? = some c ∧ isClosing c = true := by
  obtain ⟨opening, body, closing, rfl, _, closes, _⟩ := enclosed
  refine ⟨closing, ?_, closes⟩
  rw [← List.cons_append, List.getLast?_concat]

theorem Enclosed.notExtended {text more : List Char} (short : Enclosed text)
    (long : Enclosed (text ++ more)) : more = [] := by
  obtain ⟨_, body, closing, rfl, _, closes, ran⟩ := short
  obtain ⟨_, longBody, longClosing, parts, _, _, ranLong⟩ := long
  cases List.eq_nil_or_concat more with
  | inl nothing => exact nothing
  | inr something =>
    obtain ⟨more, last, rfl⟩ := something
    have tails : body ++ closing :: more ++ [last] = longBody ++ [longClosing] := by
      simpa using (List.cons.inj parts).2
    rw [← (List.append_inj' tails rfl).1, runAppend, ran, Option.bind_some, runCons,
      stepTooFar closes] at ranLong
    contradiction

/-- What stands before the text leaves a bracket open, which the text does not close, or a string.
The first quotation mark of the text would end that string, and no name stands outside strings. -/
theorem Enclosed.notBegun {left body : List Char} {opening closing c : Char}
    (opens : isOpening opening = true)
    (letter : ∀ depth, step ⟨.outside, depth⟩ c = none)
    (ran : run ⟨.outside, 0⟩ ('"' :: c :: body) = some ⟨.outside, 0⟩)
    (whole : Enclosed (left ++ opening :: '"' :: c :: (body ++ [closing]))) : left = [] := by
  obtain ⟨_, wholeBody, wholeClosing, parts, _, _, ranWhole⟩ := whole
  cases left with
  | nil => rfl
  | cons d left =>
    have tails :
        left ++ opening :: '"' :: c :: body ++ [closing] = wholeBody ++ [wholeClosing] := by
      simpa using (List.cons.inj parts).2
    rw [← (List.append_inj' tails rfl).1, runAppend, Option.bind_eq_some_iff] at ranWhole
    obtain ⟨⟨side, depth⟩, _, ranText⟩ := ranWhole
    have bracket : opening = '[' ∨ opening = '\x7b' := by
      simpa only [isOpening, Bool.or_eq_true, decide_eq_true_eq] using opens
    cases side with
    | outside =>
      have deeper := runDeeper ran (depth + 1)
      rw [runCons, stepOpening opens, Option.bind_some, ← Nat.zero_add (depth + 1),
        deeper] at ranText
      cases ranText
    | inside =>
      have stays : step ⟨.inside, depth⟩ opening = some ⟨.inside, depth⟩ := by
        rcases bracket with rfl | rfl <;> rfl
      rw [runCons, stays, Option.bind_some, runCons, show step ⟨.inside, depth⟩ '"' =
        some ⟨.outside, depth⟩ from rfl, Option.bind_some, runCons, letter] at ranText
      cases ranText
    | escaped =>
      have refused : step ⟨.escaped, depth⟩ opening = none := by
        rcases bracket with rfl | rfl <;> rfl
      rw [runCons, refused] at ranText
      cases ranText

end SvelteTransform.Json.Brackets
