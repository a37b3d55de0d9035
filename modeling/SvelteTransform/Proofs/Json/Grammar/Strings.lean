import SvelteTransform.Proofs.Json.Grammar.Basic
import SvelteTransform.Proofs.Json.Steps

/-! Strings are read as they are spelled. What a reader takes up to the closing quotation mark is
made of pieces, and of a string that will be used the surrogates are paired. -/
namespace SvelteTransform.Json
open Reader

theorem hexValueFour {a b c d : Char} {value : Nat} :
    hexValue [a, b, c, d] = some value ↔ ∃ i j k l, hexDigit? a = some i ∧ hexDigit? b = some j ∧
      hexDigit? c = some k ∧ hexDigit? d = some l ∧
      (((0 * 16 + i) * 16 + j) * 16 + k) * 16 + l = value := by
  simp only [hexValue, List.foldlM_cons, List.foldlM_nil, Option.bind_eq_bind,
    Option.bind_eq_some_iff, Option.map_eq_some_iff, Option.pure_def, Option.some.injEq]
  constructor
  · rintro ⟨_, ⟨i, hi, rfl⟩, _, ⟨j, hj, rfl⟩, _, ⟨k, hk, rfl⟩, _, ⟨l, hl, rfl⟩, rfl⟩
    exact ⟨i, j, k, l, hi, hj, hk, hl, rfl⟩
  · rintro ⟨i, j, k, l, hi, hj, hk, hl, rfl⟩
    exact ⟨_, ⟨i, hi, rfl⟩, _, ⟨j, hj, rfl⟩, _, ⟨k, hk, rfl⟩, _, ⟨l, hl, rfl⟩, rfl⟩

theorem fourDigits (u : CodeUnit) : ∃ a b c d i j k l, u.digits = [a, b, c, d] ∧
    hexDigit? a = some i ∧ hexDigit? b = some j ∧ hexDigit? c = some k ∧ hexDigit? d = some l ∧
    (((0 * 16 + i) * 16 + j) * 16 + k) * 16 + l = u.value := by
  obtain ⟨digits, value, four, spells⟩ := u
  match digits, four with
  | [a, b, c, d], _ =>
    obtain ⟨i, j, k, l, parts⟩ := hexValueFour.mp spells
    exact ⟨a, b, c, d, i, j, k, l, rfl, parts⟩

def afterUnit (care : Care) (read s : List Char) : Unit16 → Except Fault (String × List Char)
  | .character c => stringFrom care .plain (care.keep c read) s
  | .firstHalf first => stringFrom care (.secondEscape first) read s
  | .refused => refuse .loneSurrogate s

theorem unitRead (care : Care) (first : Option Nat) (read s : List Char) (u : CodeUnit) :
    stringFrom care (.hex 0 0 first) read (u.digits ++ s) =
      afterUnit care read s (unit16 care u.value first) := by
  obtain ⟨a, b, c, d, i, j, k, l, digits, isA, isB, isC, isD, value⟩ := fourDigits u
  simp only [digits, List.cons_append, List.nil_append, stringFrom, isA, isB, isC, isD, value,
    Nat.reduceLT, Nat.reduceAdd, if_true, if_false]
  cases unit16 care u.value first <;> rfl

theorem digitTaken {care : Care} {taken value : Nat} {first : Option Nat} {read s : List Char}
    {got : String × List Char} (ok : stringFrom care (.hex taken value first) read s = .ok got) :
    ∃ c d t, s = c :: t ∧ hexDigit? c = some d ∧ (taken < 3 →
      stringFrom care (.hex (taken + 1) (value * 16 + d) first) read t = .ok got) := by
  cases s with
  | nil =>
    rw [stringFrom] at ok
    exact (refuseHexNotOk.mp ok).elim
  | cons c t =>
    cases digit : hexDigit? c with
    | none =>
      simp only [stringFrom, digit, refuseHexNotOk] at ok
    | some d =>
      refine ⟨c, d, t, rfl, digit, fun more => ?_⟩
      simpa only [stringFrom, digit, if_pos more] using ok

theorem unitTaken {care : Care} {first : Option Nat} {read s : List Char}
    {got : String × List Char} (ok : stringFrom care (.hex 0 0 first) read s = .ok got) :
    ∃ (u : CodeUnit) (t : List Char), s = u.digits ++ t := by
  obtain ⟨a, i, s, rfl, isA, more⟩ := digitTaken ok
  obtain ⟨b, j, s, rfl, isB, more⟩ := digitTaken (more (by decide))
  obtain ⟨c, k, s, rfl, isC, more⟩ := digitTaken (more (by decide))
  obtain ⟨d, l, s, rfl, isD, _⟩ := digitTaken (more (by decide))
  exact ⟨⟨[a, b, c, d], _, rfl, hexValueFour.mpr ⟨i, j, k, l, isA, isB, isC, isD, rfl⟩⟩, s, rfl⟩

section
variable {u v : CodeUnit}

theorem unitDiscarded : unit16 .discarded u.value none = .character Text.replacement := by
  simp only [unit16, if_true]

theorem unitFirst (isFirst : u.IsFirst) : unit16 .used u.value none = .firstHalf u.value := by
  have notSecond : ¬ (0xDC00 ≤ u.value ∧ u.value ≤ 0xDFFF) := by
    have := isFirst.2
    omega
  simp only [unit16, reduceCtorEq, if_false, if_neg notSecond]
  exact if_pos isFirst

theorem unitSecond (isSecond : u.IsSecond) : unit16 .used u.value none = .refused := by
  simp only [unit16, reduceCtorEq, if_false]
  exact if_pos isSecond

theorem unitSingle (notFirst : ¬ u.IsFirst) (notSecond : ¬ u.IsSecond) :
    unit16 .used u.value none = .character (Char.ofNat u.value) := by
  simp only [unit16, reduceCtorEq, if_false]
  exact (if_neg notSecond).trans (if_neg notFirst)

theorem unitJoined (care : Care) (isSecond : v.IsSecond) :
    unit16 care v.value (some u.value) = .character (u.join v) := by
  simp only [unit16]
  exact if_pos isSecond

theorem unitUnjoined (care : Care) (notSecond : ¬ v.IsSecond) :
    unit16 care v.value (some u.value) = .refused := by
  simp only [unit16]
  exact if_neg notSecond

theorem charactersSingle (notFirst : ¬ u.IsFirst) (notSecond : ¬ u.IsSecond) (q : Quoted) :
    Quoted.characters? (.unit u :: q) = (Quoted.characters? q).map (Char.ofNat u.value :: ·) := by
  have alone : ¬ (u.IsFirst ∨ u.IsSecond) := not_or.mpr ⟨notFirst, notSecond⟩
  match q with
  | .unit v :: rest => rw [Quoted.characters?, if_neg notFirst, if_neg notSecond]
  | [] => simp only [Quoted.characters?, if_neg alone]
  | .plain .. :: _ => simp only [Quoted.characters?, if_neg alone]
  | .short .. :: _ => simp only [Quoted.characters?, if_neg alone]

theorem charactersPair (isFirst : u.IsFirst) (isSecond : v.IsSecond) (q : Quoted) :
    Quoted.characters? (.unit u :: .unit v :: q) =
      (Quoted.characters? q).map (u.join v :: ·) := by
  rw [Quoted.characters?, if_pos isFirst, if_pos isSecond]

end

theorem pieceRead (care : Care) (read s : List Char) :
    (∀ c unescaped, stringFrom care .plain read (Piece.text (.plain c unescaped) ++ s) =
      stringFrom care .plain (care.keep c read) s) ∧
    (∀ letter c escape, stringFrom care .plain read (Piece.text (.short letter c escape) ++ s) =
      stringFrom care .plain (care.keep c read) s) ∧
    ∀ u, stringFrom care .plain read (Piece.text (.unit u) ++ s) =
      afterUnit care read s (unit16 care u.value none) := by
  refine ⟨fun c ⟨notQuote, notBackslash, printable⟩ => ?_, fun letter c escape => ?_, fun u => ?_⟩
  · simp only [Piece.text, List.singleton_append, stringFrom, if_neg notQuote, if_neg notBackslash,
      if_neg (Nat.not_lt.mpr printable)]
  · have notUnit : letter ≠ 'u' := by
      rintro rfl
      contradiction
    simp only [Piece.text, List.cons_append, List.nil_append, stringFrom, if_neg notUnit, escape]
    rfl
  · rw [← unitRead]
    rfl

theorem secondRead (care : Care) (first : Nat) (read s : List Char) (v : CodeUnit) :
    stringFrom care (.secondEscape first) read (Piece.text (.unit v) ++ s) =
      afterUnit care read s (unit16 care v.value (some first)) := by
  rw [← unitRead]
  rfl

theorem pieceTaken {care : Care} {read s : List Char} {got : String × List Char}
    (ok : stringFrom care .plain read s = .ok got) :
    (∃ rest, s = '"' :: rest ∧ got = (String.ofList read.reverse, rest)) ∨
    ∃ (p : Piece) (t : List Char), s = p.text ++ t := by
  match s with
  | [] => simp only [stringFrom, refuseNotOk] at ok
  | c :: s =>
    simp only [stringFrom] at ok
    split at ok
    · rename_i isQuote
      cases ok
      exact .inl ⟨s, by rw [isQuote], rfl⟩
    · rename_i notQuote
      split at ok
      · rename_i isBackslash
        match s with
        | [] => simp only [stringFrom, refuseNotOk] at ok
        | letter :: s =>
          simp only [stringFrom] at ok
          split at ok
          · rename_i isUnit
            obtain ⟨u, t, rfl⟩ := unitTaken ok
            exact .inr ⟨.unit u, t, by rw [isBackslash, isUnit]; rfl⟩
          · split at ok
            · rename_i d escape
              exact .inr ⟨.short letter d escape, s, by rw [isBackslash]; rfl⟩
            · simp only [refuseNextNotOk] at ok
      · rename_i notBackslash
        split at ok
        · split at ok
          · simp only [refuseNextNotOk] at ok
          · simp only [refuseNotOk] at ok
        · rename_i printable
          exact .inr ⟨.plain c ⟨notQuote, notBackslash, Nat.not_lt.mp printable⟩, s, rfl⟩

theorem secondTaken {care : Care} {first : Nat} {read s : List Char} {got : String × List Char}
    (ok : stringFrom care (.secondEscape first) read s = .ok got) :
    ∃ (v : CodeUnit) (t : List Char), s = Piece.text (.unit v) ++ t := by
  match s with
  | [] => simp only [stringFrom, refuseNotOk] at ok
  | c :: s =>
    simp only [stringFrom] at ok
    split at ok
    · rename_i isBackslash
      match s with
      | [] => simp only [stringFrom, refuseNotOk] at ok
      | letter :: s =>
        rw [stringFrom] at ok
        split at ok
        · rename_i isUnit
          obtain ⟨v, t, rfl⟩ := unitTaken ok
          exact ⟨v, t, by rw [isBackslash, isUnit]; rfl⟩
        · simp only [refuseNextNotOk] at ok
    · simp only [refuseNextNotOk] at ok

theorem pieceNonempty (p : Piece) : 0 < p.text.length := by
  cases p <;> exact Nat.succ_pos _

theorem afterPieces (p : Piece) (q : Quoted) (rest : List Char) :
    Quoted.textAfterMark (p :: q) ++ rest = p.text ++ (q.textAfterMark ++ rest) := by
  simp only [Quoted.textAfterMark, List.flatMap_cons, List.append_assoc]

theorem skippedPiece (p : Piece) (s : List Char) :
    stringFrom .discarded .plain [] (p.text ++ s) = stringFrom .discarded .plain [] s := by
  cases p with
  | plain c unescaped => rw [(pieceRead .discarded [] s).1]; rfl
  | short letter c escape => rw [(pieceRead .discarded [] s).2.1]; rfl
  | unit u => rw [(pieceRead .discarded [] s).2.2, unitDiscarded]; rfl

theorem stringSkipped (q : Quoted) (rest : List Char) :
    Reader.string .discarded (q.textAfterMark ++ rest) = .ok ("", rest) := by
  induction q with
  | nil => rfl
  | cons p q ih =>
    rw [afterPieces, Reader.string, skippedPiece]
    exact ih

theorem skippedSpelled {s rest : List Char} {text : String}
    (ok : Reader.string .discarded s = .ok (text, rest)) :
    ∃ q : Quoted, s = q.textAfterMark ++ rest := by
  induction length : s.length using Nat.strongRecOn generalizing s with
  | ind n ih =>
    rcases pieceTaken ok with ⟨more, rfl, same⟩ | ⟨p, t, rfl⟩
    · cases same
      exact ⟨[], rfl⟩
    · rw [Reader.string, skippedPiece] at ok
      have shorter : t.length < n := by
        have := pieceNonempty p
        rw [← length, List.length_append]
        omega
      obtain ⟨q, rfl⟩ := ih t.length shorter ok rfl
      exact ⟨p :: q, (afterPieces p q rest).symm⟩

theorem usedRead {q : Quoted} {cs : List Char} (paired : q.characters? = some cs)
    (read rest : List Char) : stringFrom .used .plain read (q.textAfterMark ++ rest) =
      .ok (String.ofList (read.reverse ++ cs), rest) := by
  have later {more : Option (List Char)} {c : Char} {cs : List Char}
      (same : more.map (c :: ·) = some cs) : ∃ ds, more = some ds ∧
        ∀ read : List Char, read.reverse ++ cs = (c :: read).reverse ++ ds := by
    obtain ⟨ds, isMore, rfl⟩ := Option.map_eq_some_iff.mp same
    exact ⟨ds, isMore, fun read => by rw [List.reverse_cons, List.append_assoc]; rfl⟩
  fun_induction Quoted.characters? q generalizing read cs
  case case1 =>
    cases paired
    rw [List.append_nil]
    rfl
  case case2 c unescaped q ih =>
    obtain ⟨ds, isMore, same⟩ := later paired
    rw [afterPieces, (pieceRead .used read _).1, same]
    exact ih isMore (c :: read)
  case case3 letter c escape q ih =>
    obtain ⟨ds, isMore, same⟩ := later paired
    rw [afterPieces, (pieceRead .used read _).2.1, same]
    exact ih isMore (c :: read)
  case case4 u v q isFirst isSecond ih =>
    obtain ⟨ds, isMore, same⟩ := later paired
    rw [afterPieces, (pieceRead .used read _).2.2, unitFirst isFirst, afterUnit, afterPieces,
      secondRead, unitJoined .used isSecond, same]
    exact ih isMore (u.join v :: read)
  case case7 u v q notFirst notSecond ih =>
    obtain ⟨ds, isMore, same⟩ := later paired
    rw [afterPieces, (pieceRead .used read _).2.2, unitSingle notFirst notSecond, same]
    exact ih isMore (Char.ofNat u.value :: read)
  case case9 u q _ alone ih =>
    obtain ⟨notFirst, notSecond⟩ := not_or.mp alone
    obtain ⟨ds, isMore, same⟩ := later paired
    rw [afterPieces, (pieceRead .used read _).2.2, unitSingle notFirst notSecond, same]
    exact ih isMore (Char.ofNat u.value :: read)
  all_goals cases paired

theorem usedSpelled {s rest read : List Char} {text : String}
    (ok : stringFrom .used .plain read s = .ok (text, rest)) :
    ∃ (q : Quoted) (cs : List Char), s = q.textAfterMark ++ rest ∧ q.characters? = some cs ∧
      text = String.ofList (read.reverse ++ cs) := by
  induction length : s.length using Nat.strongRecOn generalizing s read with
  | ind n ih =>
    -- Each piece is read by itself, but for the first half of a pair.
    rcases pieceTaken ok with ⟨more, rfl, same⟩ | ⟨p, t, rfl⟩
    · cases same
      exact ⟨[], [], rfl, rfl, by rw [List.append_nil]⟩
    · have shorter : t.length < n := by
        have := pieceNonempty p
        rw [← length, List.length_append]
        omega
      cases p with
      | plain c unescaped =>
        rw [(pieceRead .used read t).1] at ok
        obtain ⟨q, cs, rfl, paired, rfl⟩ := ih t.length shorter ok rfl
        exact ⟨.plain c unescaped :: q, c :: cs, (afterPieces _ q rest).symm,
          by rw [Quoted.characters?, paired]; rfl, by simp [Care.keep]⟩
      | short letter c escape =>
        rw [(pieceRead .used read t).2.1] at ok
        obtain ⟨q, cs, rfl, paired, rfl⟩ := ih t.length shorter ok rfl
        exact ⟨.short letter c escape :: q, c :: cs, (afterPieces _ q rest).symm,
          by rw [Quoted.characters?, paired]; rfl, by simp [Care.keep]⟩
      | unit u =>
        rw [(pieceRead .used read t).2.2] at ok
        by_cases isFirst : u.IsFirst
        · rw [unitFirst isFirst] at ok
          obtain ⟨v, w, rfl⟩ := secondTaken ok
          rw [afterUnit, secondRead] at ok
          by_cases isSecond : v.IsSecond
          · rw [unitJoined .used isSecond] at ok
            rw [List.length_append] at shorter
            obtain ⟨q, cs, rfl, paired, rfl⟩ := ih w.length (by omega) ok rfl
            refine ⟨.unit u :: .unit v :: q, u.join v :: cs, ?_, ?_, by simp [Care.keep]⟩
            · rw [afterPieces, afterPieces]
            · rw [charactersPair isFirst isSecond, paired]
              rfl
          · rw [unitUnjoined .used isSecond] at ok
            simp only [afterUnit, refuseNotOk] at ok
        · by_cases isSecond : u.IsSecond
          · rw [unitSecond isSecond] at ok
            simp only [afterUnit, refuseNotOk] at ok
          · rw [unitSingle isFirst isSecond] at ok
            obtain ⟨q, cs, rfl, paired, rfl⟩ := ih t.length shorter ok rfl
            refine ⟨.unit u :: q, Char.ofNat u.value :: cs, (afterPieces _ q rest).symm, ?_,
              by simp [Care.keep]⟩
            rw [charactersSingle isFirst isSecond, paired]
            rfl

theorem usedString {s rest : List Char} {text : String} :
    Reader.string .used s = .ok (text, rest) ↔
      ∃ q : Quoted, s = q.textAfterMark ++ rest ∧ q.string? = some text := by
  constructor
  · intro ok
    obtain ⟨q, cs, spelled, paired, same⟩ := usedSpelled ok
    exact ⟨q, spelled, by rw [Quoted.string?, paired, same]; rfl⟩
  · rintro ⟨q, rfl, paired⟩
    obtain ⟨cs, isCharacters, rfl⟩ := Option.map_eq_some_iff.mp paired
    exact usedRead isCharacters [] rest

theorem discardedString {s rest : List Char} {text : String} :
    Reader.string .discarded s = .ok (text, rest) ↔
      text = "" ∧ ∃ q : Quoted, s = q.textAfterMark ++ rest := by
  constructor
  · intro ok
    obtain ⟨q, rfl⟩ := skippedSpelled ok
    rw [stringSkipped] at ok
    cases ok
    exact ⟨rfl, q, rfl⟩
  · rintro ⟨rfl, q, rfl⟩
    exact stringSkipped q rest

end SvelteTransform.Json
