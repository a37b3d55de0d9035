import SvelteTransform.Proofs.Json.Brackets.Readers
import SvelteTransform.Proofs.Json.Grammar.Numbers
import SvelteTransform.Proofs.Json.Grammar.Strings
import SvelteTransform.Proofs.Json.Lookup
import SvelteTransform.Proofs.Json.Reread.Values

/-! The readers read the grammar. A value that is used is the value of a tree that nests no deeper
than there is room for; a value that is only checked is any tree. -/
namespace SvelteTransform.Json
open Reader Brackets

theorem spacesSkipped (s : List Char) : ∃ spaces, s = spaces ++ skipSpace s ∧ Spaces spaces :=
  skipSpaceParts s

theorem skippedParts {s t : List Char} {c : Char} (skipped : skipSpace s = c :: t) :
    ∃ spaces, s = spaces ++ c :: t ∧ Spaces spaces := by
  obtain ⟨spaces, parts, blank⟩ := spacesSkipped s
  exact ⟨spaces, by rw [← skipped]; exact parts, blank⟩

theorem skipSpaces {spaces : List Char} (blank : Spaces spaces) {c : Char} {t : List Char}
    (solid : isSpace c = false) : skipSpace (spaces ++ c :: t) = c :: t := by
  refine Text.dropWhileExact blank fun d head => ?_
  cases head
  exact solid

theorem spacesNothing : Spaces [] := fun _ member => absurd member List.not_mem_nil

theorem numberTaken {c : Char} {s rest : List Char} {n : Number}
    (ok : Reader.number c s = .ok (n, rest)) :
    ∃ (l : Literal) (text : List Char), c :: s = text ++ rest ∧ l.Spelled text ∧ l.Means n := by
  simp only [Reader.number] at ok
  split at ok
  · rename_i minus
    obtain ⟨⟨l, t⟩, read, valued⟩ := bindOk.mp ok
    obtain ⟨text, parts, sign, digits⟩ := unsignedTaken read
    split at valued
    · rename_i inRange
      cases valued
      exact ⟨l, '-' :: text, by rw [minus, parts]; rfl, .negative sign digits,
        Literal.numberMeans.mp inRange⟩
    · cases valued
  · obtain ⟨⟨l, t⟩, read, valued⟩ := bindOk.mp ok
    obtain ⟨text, parts, sign, digits⟩ := unsignedTaken read
    split at valued
    · rename_i inRange
      cases valued
      exact ⟨l, text, parts, .positive sign digits, Literal.numberMeans.mp inRange⟩
    · cases valued

theorem unsignedStarts {l : Literal} {text : List Char} (digits : l.Unsigned text) :
    ∃ c s, text = c :: s ∧ isDigit c = true := by
  obtain ⟨whole, _, _, _, rfl, _⟩ := digits
  obtain ⟨c, more, parts, digit⟩ := digitsHead whole
  exact ⟨c, _, by rw [parts, List.cons_append], digit⟩

theorem digitNotMinus {c : Char} (digit : isDigit c = true) : c ≠ '-' := by
  rintro rfl
  contradiction

theorem spelledStarts {l : Literal} {text : List Char} (spelled : l.Spelled text) :
    ∃ c s, text = c :: s ∧ startsNumber c = true := by
  cases spelled with
  | positive _ digits =>
    obtain ⟨c, s, parts, digit⟩ := unsignedStarts digits
    exact ⟨c, s, parts, by simp [startsNumber, digit]⟩
  | negative => exact ⟨_, _, rfl, rfl⟩

theorem numberSpelled {l : Literal} {text rest : List Char} (spelled : l.Spelled text) {n : Number}
    (means : l.Means n) (ends : EndsNumber rest) {c : Char} {s : List Char}
    (same : text ++ rest = c :: s) : Reader.number c s = .ok (n, rest) := by
  have inRange := Literal.numberMeans.mpr means
  cases spelled with
  | positive sign digits =>
    have read := unsignedSpelled ends .used digits
    obtain ⟨d, more, rfl, digit⟩ := unsignedStarts digits
    rw [List.cons_append] at same
    cases same
    rw [sign, List.cons_append] at read
    rw [Reader.number, if_neg (digitNotMinus digit), read, okBind]
    simp only [inRange]
  | negative sign digits =>
    have read := unsignedSpelled ends .used digits
    rw [List.cons_append] at same
    cases same
    rw [sign] at read
    rw [Reader.number, if_pos rfl, read, okBind]
    simp only [inRange]

theorem checkNumberSpelled {l : Literal} {text rest : List Char} (spelled : l.Spelled text)
    (ends : EndsNumber rest) {c : Char} {s : List Char} (same : text ++ rest = c :: s) :
    checkScalar c s = .ok rest := by
  cases spelled with
  | positive sign digits =>
    have read := unsignedSpelled ends .discarded digits
    obtain ⟨d, more, rfl, digit⟩ := unsignedStarts digits
    rw [List.cons_append] at same
    cases same
    rw [sign, List.cons_append] at read
    unfold checkScalar
    split
    case h_6 =>
      rw [if_pos digit, read, okBind]
      rfl
    all_goals contradiction
  | negative sign digits =>
    have read := unsignedSpelled ends .discarded digits
    rw [List.cons_append] at same
    cases same
    rw [sign] at read
    simp only [checkScalar, read, okBind]
    rfl

theorem scalarString {s rest : List Char} {text : String}
    (read : Reader.string .used s = .ok (text, rest)) :
    Reader.scalar '"' s = .ok (.string text, rest) := by
  simp only [Reader.scalar, read, okBind]
  rfl

theorem scalarTaken {c : Char} {s rest : List Char} {v : Json}
    (ok : Reader.scalar c s = .ok (v, rest)) :
    ∃ tree text, c :: s = text ++ rest ∧ Written tree text ∧ Denotes tree v ∧ tree.nesting = 0 := by
  unfold Reader.scalar at ok
  split at ok
  · obtain ⟨t, read, same⟩ := bindOk.mp ok
    cases same
    exact ⟨.null, _, congrArg _ (wordParts read), .null, .null, rfl⟩
  · obtain ⟨t, read, same⟩ := bindOk.mp ok
    cases same
    exact ⟨.boolean true, _, congrArg _ (wordParts read), .true, .boolean true, rfl⟩
  · obtain ⟨t, read, same⟩ := bindOk.mp ok
    cases same
    exact ⟨.boolean false, _, congrArg _ (wordParts read), .false, .boolean false, rfl⟩
  · obtain ⟨⟨string, t⟩, read, same⟩ := bindOk.mp ok
    cases same
    obtain ⟨q, spelled, paired⟩ := usedString.mp read
    exact ⟨.string q, q.text, congrArg _ spelled, .string q, .string paired, rfl⟩
  · split at ok
    · obtain ⟨⟨n, t⟩, read, same⟩ := bindOk.mp ok
      cases same
      obtain ⟨l, text, parts, spelled, means⟩ := numberTaken read
      exact ⟨.number l, text, parts, .number spelled, .number means, rfl⟩
    · simp only [refuseNextNotOk] at ok

theorem checkScalarTaken {c : Char} {s rest : List Char} (ok : checkScalar c s = .ok rest) :
    ∃ tree text, c :: s = text ++ rest ∧ Written tree text := by
  unfold checkScalar at ok
  split at ok
  · exact ⟨.null, _, congrArg _ (wordParts ok), .null⟩
  · exact ⟨.boolean true, _, congrArg _ (wordParts ok), .true⟩
  · exact ⟨.boolean false, _, congrArg _ (wordParts ok), .false⟩
  · obtain ⟨⟨string, t⟩, read, same⟩ := bindOk.mp ok
    cases same
    obtain ⟨_, q, spelled⟩ := discardedString.mp read
    exact ⟨.string q, q.text, congrArg _ spelled, .string q⟩
  · obtain ⟨⟨l, t⟩, read, same⟩ := bindOk.mp ok
    cases same
    obtain ⟨text, rfl, sign, digits⟩ := unsignedTaken read
    exact ⟨.number l, '-' :: text, rfl, .number (.negative sign digits)⟩
  · split at ok
    · obtain ⟨⟨l, t⟩, read, same⟩ := bindOk.mp ok
      cases same
      obtain ⟨text, parts, sign, digits⟩ := unsignedTaken read
      exact ⟨.number l, text, parts, .number (.positive sign digits)⟩
    · simp only [refuseNextNotOk] at ok

theorem startsSolid {c : Char} (starts : startsNumber c = true) : isSpace c = false :=
  (startsNumberSolid starts).1

theorem writtenStarts {tree : Tree} {text : List Char} (written : Written tree text) :
    ∃ c more, text = c :: more ∧ isSpace c = false := by
  cases written with
  | number spelled =>
    obtain ⟨c, more, parts, starts⟩ := spelledStarts spelled
    exact ⟨c, more, parts, startsSolid starts⟩
  | _ => exact ⟨_, _, rfl, rfl⟩

theorem skipToWritten {tree : Tree} {spaces text rest : List Char} (blank : Spaces spaces)
    (written : Written tree text) : skipSpace (spaces ++ (text ++ rest)) = text ++ rest := by
  obtain ⟨c, more, rfl, solid⟩ := writtenStarts written
  exact skipSpaces blank solid

theorem spacesAppend {first second : List Char} (left : Spaces first) (right : Spaces second) :
    Spaces (first ++ second) :=
  fun c member => (List.mem_append.mp member).elim (left c) (right c)

theorem spacesEnd {spaces text : List Char} (blank : Spaces spaces) (ends : EndsNumber text) :
    EndsNumber (spaces ++ text) := by
  intro c head
  cases spaces with
  | nil => exact ends c head
  | cons d spaces =>
    cases head
    have space := blank c List.mem_cons_self
    simp only [isSpace, Bool.or_eq_true, decide_eq_true_eq] at space
    rcases space with ((rfl | rfl) | rfl) | rfl <;> decide

theorem closedEnds (c : Char) (closes : c = ',' ∨ c = ']' ∨ c = '\x7d') (rest : List Char) :
    EndsNumber (c :: rest) := by
  intro d head
  cases head
  rcases closes with rfl | rfl | rfl <;> decide

theorem writtenItemsEnd {items : List Tree} {text : List Char} (written : WrittenItems items text)
    (rest : List Char) : EndsNumber (text ++ rest) := by
  cases written with
  | close blank =>
    rw [List.append_assoc]
    exact spacesEnd blank (closedEnds ']' (.inr (.inl rfl)) _)
  | next blank =>
    rw [List.append_assoc]
    exact spacesEnd blank (closedEnds ',' (.inl rfl) _)

theorem writtenMembersEnd {members : List (Quoted × Tree)} {text : List Char}
    (written : WrittenMembers members text) (rest : List Char) : EndsNumber (text ++ rest) := by
  cases written with
  | close blank =>
    rw [List.append_assoc]
    exact spacesEnd blank (closedEnds '\x7d' (.inr (.inr rfl)) _)
  | next blank =>
    rw [List.append_assoc]
    exact spacesEnd blank (closedEnds ',' (.inl rfl) _)

def KeyGives (care : Care) (q : Quoted) (key : String) : Prop :=
  match care with
  | .used => q.string? = some key
  | .discarded => key = ""

theorem keyRead {care : Care} {s rest : List Char} {key : String} :
    Reader.string care s = .ok (key, rest) ↔
      ∃ q : Quoted, s = q.textAfterMark ++ rest ∧ KeyGives care q key := by
  cases care with
  | used => exact usedString
  | discarded =>
    refine discardedString.trans ⟨?_, ?_⟩
    · rintro ⟨same, q, spelled⟩
      exact ⟨q, spelled, same⟩
    · rintro ⟨q, spelled, same⟩
      exact ⟨same, q, spelled⟩

theorem skipToKey {spaces rest : List Char} (blank : Spaces spaces) {key : Quoted} :
    skipSpace (spaces ++ (key.text ++ rest)) = '"' :: (key.textAfterMark ++ rest) :=
  skipSpaces blank rfl

theorem stringSpelled {q : Quoted} {s : String} (paired : q.string? = some s) {rest : List Char} :
    Reader.string .used (q.textAfterMark ++ rest) = .ok (s, rest) :=
  usedString.mpr ⟨q, rfl, paired⟩

theorem readsKeyWritten {care : Care} {s rest : List Char} {key : String}
    (named : ReadsKey care s key rest) :
    ∃ (spaces before : List Char) (q : Quoted),
      s = spaces ++ (q.text ++ (before ++ ':' :: rest)) ∧ Spaces spaces ∧ Spaces before ∧
      KeyGives care q key := by
  obtain ⟨t, u, opened, read, separated⟩ := named
  obtain ⟨spaces, rfl, blank⟩ := skippedParts opened
  obtain ⟨q, rfl, gives⟩ := keyRead.mp read
  obtain ⟨before, rfl, blankBefore⟩ := skippedParts separated
  exact ⟨spaces, before, q, rfl, blank, blankBefore, gives⟩

theorem writtenReadsKey {care : Care} {spaces before rest : List Char} {q : Quoted} {key : String}
    (blank : Spaces spaces) (blankBefore : Spaces before) (gives : KeyGives care q key) :
    ReadsKey care (spaces ++ (q.text ++ (before ++ ':' :: rest))) key rest :=
  ⟨_, _, skipToKey blank, keyRead.mpr ⟨q, rfl, gives⟩, skipSpaces blankBefore rfl⟩

theorem firstKey {care : Care} {inside before rest : List Char} {q : Quoted} {key : String}
    (blank : Spaces inside) (blankBefore : Spaces before) (gives : KeyGives care q key) :
    ReadsKey care (skipSpace (inside ++ (q.text ++ (before ++ ':' :: rest)))) key rest := by
  rw [skipToKey blank]
  exact writtenReadsKey spacesNothing blankBefore gives

theorem denotesObject {members : List (Quoted × Tree)} {v : Json} :
    Denotes (.object members) v ↔
      ∃ entries, DenotesMembers members entries ∧ v = .object (Fields.ofList entries) := by
  constructor
  · rintro (_ | _ | _ | _ | _ | ⟨each, ordered, last⟩)
    rename_i entries fields
    exact ⟨entries, each, congrArg _ (Fields.ofListUnique ordered last)⟩
  · rintro ⟨entries, each, rfl⟩
    exact .object each (Fields.ofListOrdered entries) (Fields.ofListLookup entries)

mutual
theorem readsWritten : {room : Nat} → {s : List Char} → {v : Json} → {rest : List Char} →
    ReadsValue room s v rest → ∃ spaces tree text, s = spaces ++ (text ++ rest) ∧ Spaces spaces ∧
      Written tree text ∧ Denotes tree v ∧ tree.nesting ≤ room
  | _, _, _, _, .scalar skipped read => by
    obtain ⟨spaces, rfl, blank⟩ := skippedParts skipped
    obtain ⟨tree, text, parts, written, denotes, flat⟩ := scalarTaken read
    exact ⟨spaces, tree, text, by rw [parts], blank, written, denotes, by omega⟩
  | _, _, _, _, .noItems skipped closed => by
    obtain ⟨spaces, rfl, blank⟩ := skippedParts skipped
    obtain ⟨inside, rfl, blankInside⟩ := skippedParts closed
    exact ⟨spaces, .array [], _, by simp, blank, .noItems blankInside, .array .nil,
      Nat.succ_le_succ (Nat.zero_le _)⟩
  | _, _, _, _, .array (t := t) skipped first others => by
    obtain ⟨spaces, rfl, blank⟩ := skippedParts skipped
    obtain ⟨inside, before, blankInside⟩ := spacesSkipped t
    obtain ⟨more, tree, text, parts, blankMore, written, denotes, shallow⟩ := readsWritten first
    obtain ⟨trees, texts, rfl, writtenOthers, each, shallowOthers⟩ := readsItemsWritten others
    refine ⟨spaces, .array (tree :: trees), _, ?_, blank,
      .array (spacesAppend blankInside blankMore) written writtenOthers,
      .array (.cons denotes each), Nat.succ_le_succ (Nat.max_le.mpr ⟨shallow, shallowOthers⟩)⟩
    rw [before, parts]
    simp
  | _, _, _, _, .noMembers skipped closed => by
    obtain ⟨spaces, rfl, blank⟩ := skippedParts skipped
    obtain ⟨inside, rfl, blankInside⟩ := skippedParts closed
    exact ⟨spaces, .object [], _, by simp, blank, .noMembers blankInside,
      .object .nil List.Pairwise.nil fun _ => rfl, Nat.succ_le_succ (Nat.zero_le _)⟩
  | _, _, _, _, .object (t := t) skipped named first others => by
    obtain ⟨spaces, rfl, blank⟩ := skippedParts skipped
    obtain ⟨inside, start, blankInside⟩ := spacesSkipped t
    obtain ⟨more, before, q, parts, blankMore, blankBefore, paired⟩ := readsKeyWritten named
    obtain ⟨after, tree, text, rfl, blankAfter, written, denotes, shallow⟩ := readsWritten first
    obtain ⟨members, texts, rfl, writtenOthers, each, shallowOthers⟩ := readsMembersWritten others
    refine ⟨spaces, .object ((q, tree) :: members), _, ?_, blank,
      .object (spacesAppend blankInside blankMore) (.intro blankBefore blankAfter) written
        writtenOthers, denotesObject.mpr ⟨_, .cons paired denotes each, rfl⟩,
      Nat.succ_le_succ (Nat.max_le.mpr ⟨shallow, shallowOthers⟩)⟩
    rw [start, parts]
    simp
theorem readsItemsWritten : {room : Nat} → {s : List Char} → {vs : List Json} →
    {rest : List Char} → ReadsItems room s vs rest → ∃ items text, s = text ++ rest ∧
      WrittenItems items text ∧ DenotesItems items vs ∧ Tree.nestingItems items ≤ room
  | _, _, _, _, .close skipped => by
    obtain ⟨spaces, rfl, blank⟩ := skippedParts skipped
    exact ⟨[], _, by simp, .close blank, .nil, Nat.zero_le _⟩
  | _, _, _, _, .next (t := t) skipped first others => by
    obtain ⟨before, rfl, blankBefore⟩ := skippedParts skipped
    obtain ⟨inside, start, blankInside⟩ := spacesSkipped t
    obtain ⟨more, tree, text, parts, blankMore, written, denotes, shallow⟩ := readsWritten first
    obtain ⟨trees, texts, rfl, writtenOthers, each, shallowOthers⟩ := readsItemsWritten others
    refine ⟨tree :: trees, _, ?_,
      .next blankBefore (spacesAppend blankInside blankMore) written writtenOthers,
      .cons denotes each, Nat.max_le.mpr ⟨shallow, shallowOthers⟩⟩
    rw [start, parts]
    simp
theorem readsMembersWritten : {room : Nat} → {s : List Char} → {ms : List (String × Json)} →
    {rest : List Char} → ReadsMembers room s ms rest → ∃ members text, s = text ++ rest ∧
      WrittenMembers members text ∧ DenotesMembers members ms ∧
      Tree.nestingMembers members ≤ room
  | _, _, _, _, .close skipped => by
    obtain ⟨spaces, rfl, blank⟩ := skippedParts skipped
    exact ⟨[], _, by simp, .close blank, .nil, Nat.zero_le _⟩
  | _, _, _, _, .next skipped named first others => by
    obtain ⟨spaces, rfl, blank⟩ := skippedParts skipped
    obtain ⟨more, before, q, rfl, blankMore, blankBefore, paired⟩ := readsKeyWritten named
    obtain ⟨after, tree, text, rfl, blankAfter, written, denotes, shallow⟩ := readsWritten first
    obtain ⟨members, texts, rfl, writtenOthers, each, shallowOthers⟩ := readsMembersWritten others
    exact ⟨(q, tree) :: members, _, by simp,
      .next blank blankMore (.intro blankBefore blankAfter) written writtenOthers,
      .cons paired denotes each, Nat.max_le.mpr ⟨shallow, shallowOthers⟩⟩
end

mutual
theorem checksWritten : {s rest : List Char} → ChecksValue s rest → ∃ spaces tree text,
    s = spaces ++ (text ++ rest) ∧ Spaces spaces ∧ Written tree text
  | _, _, .scalar skipped read => by
    obtain ⟨spaces, rfl, blank⟩ := skippedParts skipped
    obtain ⟨tree, text, parts, written⟩ := checkScalarTaken read
    exact ⟨spaces, tree, text, by rw [parts], blank, written⟩
  | _, _, .noItems skipped closed => by
    obtain ⟨spaces, rfl, blank⟩ := skippedParts skipped
    obtain ⟨inside, rfl, blankInside⟩ := skippedParts closed
    exact ⟨spaces, .array [], _, by simp, blank, .noItems blankInside⟩
  | _, _, .array (t := t) skipped first others => by
    obtain ⟨spaces, rfl, blank⟩ := skippedParts skipped
    obtain ⟨inside, before, blankInside⟩ := spacesSkipped t
    obtain ⟨more, tree, text, parts, blankMore, written⟩ := checksWritten first
    obtain ⟨trees, texts, rfl, writtenOthers⟩ := checksItemsWritten others
    refine ⟨spaces, .array (tree :: trees), _, ?_, blank,
      .array (spacesAppend blankInside blankMore) written writtenOthers⟩
    rw [before, parts]
    simp
  | _, _, .noMembers skipped closed => by
    obtain ⟨spaces, rfl, blank⟩ := skippedParts skipped
    obtain ⟨inside, rfl, blankInside⟩ := skippedParts closed
    exact ⟨spaces, .object [], _, by simp, blank, .noMembers blankInside⟩
  | _, _, .object (t := t) skipped named first others => by
    obtain ⟨spaces, rfl, blank⟩ := skippedParts skipped
    obtain ⟨inside, start, blankInside⟩ := spacesSkipped t
    obtain ⟨more, before, q, parts, blankMore, blankBefore, _⟩ := readsKeyWritten named
    obtain ⟨after, tree, text, rfl, blankAfter, written⟩ := checksWritten first
    obtain ⟨members, texts, rfl, writtenOthers⟩ := checksMembersWritten others
    refine ⟨spaces, .object ((q, tree) :: members), _, ?_, blank,
      .object (spacesAppend blankInside blankMore) (.intro blankBefore blankAfter) written
        writtenOthers⟩
    rw [start, parts]
    simp
theorem checksItemsWritten : {s rest : List Char} → ChecksItems s rest → ∃ items text,
    s = text ++ rest ∧ WrittenItems items text
  | _, _, .close skipped => by
    obtain ⟨spaces, rfl, blank⟩ := skippedParts skipped
    exact ⟨[], _, by simp, .close blank⟩
  | _, _, .next skipped first others => by
    obtain ⟨before, rfl, blankBefore⟩ := skippedParts skipped
    obtain ⟨after, tree, text, rfl, blankAfter, written⟩ := checksWritten first
    obtain ⟨trees, texts, rfl, writtenOthers⟩ := checksItemsWritten others
    exact ⟨tree :: trees, _, by simp, .next blankBefore blankAfter written writtenOthers⟩
theorem checksMembersWritten : {s rest : List Char} → ChecksMembers s rest → ∃ members text,
    s = text ++ rest ∧ WrittenMembers members text
  | _, _, .close skipped => by
    obtain ⟨spaces, rfl, blank⟩ := skippedParts skipped
    exact ⟨[], _, by simp, .close blank⟩
  | _, _, .next skipped named first others => by
    obtain ⟨spaces, rfl, blank⟩ := skippedParts skipped
    obtain ⟨more, before, q, rfl, blankMore, blankBefore, _⟩ := readsKeyWritten named
    obtain ⟨after, tree, text, rfl, blankAfter, written⟩ := checksWritten first
    obtain ⟨members, texts, rfl, writtenOthers⟩ := checksMembersWritten others
    exact ⟨(q, tree) :: members, _, by simp,
      .next blank blankMore (.intro blankBefore blankAfter) written writtenOthers⟩
end

/-
By induction on the text. What follows a value must not go on with a number; after every value
inside a bracket there are blanks, a comma or a bracket that closes.
-/
mutual
theorem writtenReads : {tree : Tree} → {text : List Char} → Written tree text → ∀ {v : Json},
    Denotes tree v → ∀ {room : Nat}, tree.nesting ≤ room → ∀ {spaces rest : List Char},
      Spaces spaces → EndsNumber rest → ReadsValue room (spaces ++ (text ++ rest)) v rest
  | _, _, .null, _, .null, _, _, _, _, blank, _ => .scalar (skipSpaces blank rfl) rfl
  | _, _, .true, _, .boolean _, _, _, _, _, blank, _ => .scalar (skipSpaces blank rfl) rfl
  | _, _, .false, _, .boolean _, _, _, _, _, blank, _ => .scalar (skipSpaces blank rfl) rfl
  | _, _, .number spelled, _, .number means, _, _, _, rest, blank, ends => by
    obtain ⟨c, s, rfl, starts⟩ := spelledStarts spelled
    refine .scalar (skipSpaces blank (startsSolid starts)) ?_
    rw [scalarNumber starts, numberSpelled spelled means ends rfl]
    rfl
  | _, _, .string _, _, .string paired, _, _, _, _, blank, _ =>
    .scalar (skipToKey blank) (scalarString (stringSpelled paired))
  | _, _, .noItems blankInside, _, .array .nil, _ + 1, _, _, _, blank, _ => by
    simp only [List.cons_append, List.append_assoc, List.nil_append]
    exact .noItems (skipSpaces blank rfl) (skipSpaces blankInside rfl)
  | _, _, .array blankInside head tail, _, .array (.cons denotes each), _ + 1, fits, _, rest, blank,
      _ => by
    obtain ⟨shallow, shallowOthers⟩ := Nat.max_le.mp (Nat.le_of_succ_le_succ fits)
    have first := writtenReads head denotes shallow spacesNothing (writtenItemsEnd tail rest)
    rw [← skipToWritten blankInside head] at first
    simp only [List.cons_append, List.append_assoc]
    exact .array (skipSpaces blank rfl) first (writtenItemsRead tail each shallowOthers)
  | _, _, .noMembers blankInside, _, denotes, _ + 1, _, _, _, blank, _ => by
    obtain ⟨entries, each, rfl⟩ := denotesObject.mp denotes
    cases each
    simp only [List.cons_append, List.append_assoc, List.nil_append]
    have nothing : Fields.ofList ([] : List (String × Json)) = [] := Fields.ofListSame .nil
    rw [nothing]
    exact .noMembers (skipSpaces blank rfl) (skipSpaces blankInside rfl)
  | _, _, .object blankInside (.intro blankBefore blankAfter) head tail, _, denotes, _ + 1, fits, _,
      rest, blank, _ => by
    obtain ⟨entries, each, rfl⟩ := denotesObject.mp denotes
    cases each with
    | cons paired denotesHead denotesTail =>
      obtain ⟨shallow, shallowOthers⟩ := Nat.max_le.mp (Nat.le_of_succ_le_succ fits)
      have first := writtenReads head denotesHead shallow blankAfter (writtenMembersEnd tail rest)
      simp only [List.cons_append, List.append_assoc]
      exact .object (skipSpaces blank rfl) (firstKey blankInside blankBefore paired) first
        (writtenMembersRead tail denotesTail shallowOthers)
theorem writtenItemsRead : {items : List Tree} → {text : List Char} → WrittenItems items text →
    ∀ {vs : List Json}, DenotesItems items vs → ∀ {room : Nat}, Tree.nestingItems items ≤ room →
      ∀ {rest : List Char}, ReadsItems room (text ++ rest) vs rest
  | _, _, .close blank, _, .nil, _, _, _ => by
    rw [List.append_assoc]
    exact .close (skipSpaces blank rfl)
  | _, _, .next blankBefore blankAfter head tail, _, .cons denotes each, _, fits, rest => by
    obtain ⟨shallow, shallowOthers⟩ := Nat.max_le.mp fits
    have first := writtenReads head denotes shallow spacesNothing (writtenItemsEnd tail rest)
    rw [← skipToWritten blankAfter head] at first
    simp only [List.cons_append, List.append_assoc]
    exact .next (skipSpaces blankBefore rfl) first (writtenItemsRead tail each shallowOthers)
theorem writtenMembersRead : {members : List (Quoted × Tree)} → {text : List Char} →
    WrittenMembers members text → ∀ {ms : List (String × Json)}, DenotesMembers members ms →
      ∀ {room : Nat}, Tree.nestingMembers members ≤ room → ∀ {rest : List Char},
        ReadsMembers room (text ++ rest) ms rest
  | _, _, .close blank, _, .nil, _, _, _ => by
    rw [List.append_assoc]
    exact .close (skipSpaces blank rfl)
  | _, _, .next blankBefore blankAfter (.intro beforeColon afterColon) head tail, _,
      .cons paired denotes each, _, fits, rest => by
    obtain ⟨shallow, shallowOthers⟩ := Nat.max_le.mp fits
    simp only [List.cons_append, List.append_assoc]
    exact .next (skipSpaces blankBefore rfl) (writtenReadsKey blankAfter beforeColon paired)
      (writtenReads head denotes shallow afterColon (writtenMembersEnd tail rest))
      (writtenMembersRead tail each shallowOthers)
end

mutual
theorem writtenChecks : {tree : Tree} → {text : List Char} → Written tree text →
    ∀ {spaces rest : List Char}, Spaces spaces → EndsNumber rest →
      ChecksValue (spaces ++ (text ++ rest)) rest
  | _, _, .null, _, _, blank, _ => .scalar (skipSpaces blank rfl) rfl
  | _, _, .true, _, _, blank, _ => .scalar (skipSpaces blank rfl) rfl
  | _, _, .false, _, _, blank, _ => .scalar (skipSpaces blank rfl) rfl
  | _, _, .number spelled, _, rest, blank, ends => by
    obtain ⟨c, s, rfl, starts⟩ := spelledStarts spelled
    exact .scalar (skipSpaces blank (startsSolid starts)) (checkNumberSpelled spelled ends rfl)
  | _, _, .string q, _, rest, blank, _ => by
    have read := discardedString.mpr ⟨rfl, q, Eq.refl (q.textAfterMark ++ rest)⟩
    refine .scalar (skipToKey blank) ?_
    simp only [checkScalar, read, okBind]
    rfl
  | _, _, .noItems blankInside, _, _, blank, _ => by
    simp only [List.cons_append, List.append_assoc, List.nil_append]
    exact .noItems (skipSpaces blank rfl) (skipSpaces blankInside rfl)
  | _, _, .array blankInside head tail, _, rest, blank, _ => by
    have first := writtenChecks head spacesNothing (writtenItemsEnd tail rest)
    rw [← skipToWritten blankInside head] at first
    simp only [List.cons_append, List.append_assoc]
    exact .array (skipSpaces blank rfl) first (writtenItemsCheck tail)
  | _, _, .noMembers blankInside, _, _, blank, _ => by
    simp only [List.cons_append, List.append_assoc, List.nil_append]
    exact .noMembers (skipSpaces blank rfl) (skipSpaces blankInside rfl)
  | .object ((key, _) :: _), _, .object blankInside (.intro blankBefore blankAfter) head tail, _,
      rest, blank, _ => by
    have first := writtenChecks head blankAfter (writtenMembersEnd tail rest)
    simp only [List.cons_append, List.append_assoc]
    have named : KeyGives .discarded key "" := rfl
    exact .object (skipSpaces blank rfl) (firstKey blankInside blankBefore named) first
      (writtenMembersCheck tail)
theorem writtenItemsCheck : {items : List Tree} → {text : List Char} → WrittenItems items text →
    ∀ {rest : List Char}, ChecksItems (text ++ rest) rest
  | _, _, .close blank, _ => by
    rw [List.append_assoc]
    exact .close (skipSpaces blank rfl)
  | _, _, .next blankBefore blankAfter head tail, rest => by
    simp only [List.cons_append, List.append_assoc]
    exact .next (skipSpaces blankBefore rfl)
      (writtenChecks head blankAfter (writtenItemsEnd tail rest)) (writtenItemsCheck tail)
theorem writtenMembersCheck : {members : List (Quoted × Tree)} → {text : List Char} →
    WrittenMembers members text → ∀ {rest : List Char}, ChecksMembers (text ++ rest) rest
  | _, _, .close blank, _ => by
    rw [List.append_assoc]
    exact .close (skipSpaces blank rfl)
  | _, _, .next blankBefore blankAfter (.intro beforeColon afterColon) head tail, rest => by
    simp only [List.cons_append, List.append_assoc]
    exact .next (skipSpaces blankBefore rfl) (writtenReadsKey blankAfter beforeColon rfl)
      (writtenChecks head afterColon (writtenMembersEnd tail rest)) (writtenMembersCheck tail)
end

end SvelteTransform.Json
