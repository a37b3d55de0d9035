import SvelteTransform.Proofs.Json.Fuel
import SvelteTransform.Proofs.Json.Grammar.Values

/-! Objects whose fields are known beforehand, by the grammar. A known field is there once or not at
all and takes what its reader takes; every other member may be any tree. -/
namespace SvelteTransform.Json
open Reader Brackets

theorem stringValueTaken {s rest : List Char} {text : String}
    (ok : stringValue s = .ok (text, rest)) : ∃ (spaces : List Char) (q : Quoted),
      s = spaces ++ (q.text ++ rest) ∧ Spaces spaces ∧ q.string? = some text := by
  unfold stringValue at ok
  split at ok
  · exact (refuseNotOk.mp ok).elim
  · exact (refuseNotOk.mp ok).elim
  · exact (refuseNotOk.mp ok).elim
  · rename_i skipped
    obtain ⟨⟨v, t⟩, read, ok⟩ := bindOk.mp ok
    split at ok
    · rename_i same
      cases same
      cases ok
      obtain ⟨spaces, rfl, blank⟩ := skippedParts skipped
      obtain ⟨tree, text, parts, written, denotes, _⟩ := scalarTaken read
      cases denotes with
      | string paired =>
        cases written with
        | string q => exact ⟨spaces, _, by rw [parts], blank, paired⟩
    · exact (refuseNotOk.mp ok).elim

theorem stringValueWritten {spaces : List Char} (blank : Spaces spaces) {q : Quoted}
    {text : String} (paired : q.string? = some text) (rest : List Char) :
    stringValue (spaces ++ (q.text ++ rest)) = .ok (text, rest) := by
  rw [stringValue, skipToKey blank]
  change (scalar '"' (q.textAfterMark ++ rest) >>= _) = _
  rw [scalarString (stringSpelled paired)]
  rfl

structure Field.Reads (field : Field) (takes : Tree → Json → Prop) : Prop where
  taken : ∀ {fuel s v rest}, field.value fuel s = .ok (v, rest) → ∃ spaces tree text,
    s = spaces ++ (text ++ rest) ∧ Spaces spaces ∧ Written tree text ∧ takes tree v
  written : ∀ {tree text v}, Written tree text → takes tree v → ∀ {fuel spaces rest},
    Spaces spaces → EndsNumber rest → (spaces ++ (text ++ rest)).length ≤ fuel →
      field.value fuel (spaces ++ (text ++ rest)) = .ok (v, rest)

def TakesString (tree : Tree) (v : Json) : Prop :=
  ∃ (q : Quoted) (s : String), tree = .string q ∧ q.string? = some s ∧ v = .string s

def TakesAny (room : Nat) (tree : Tree) (v : Json) : Prop :=
  tree.nesting ≤ room ∧ Denotes tree v

theorem stringFieldReads (name : String) : (stringField name).Reads TakesString where
  taken ok := by
    obtain ⟨⟨text, t⟩, read, same⟩ := bindOk.mp ok
    cases same
    obtain ⟨spaces, q, rfl, blank, paired⟩ := stringValueTaken read
    exact ⟨spaces, .string q, q.text, rfl, blank, .string q, q, text, rfl, paired, rfl⟩
  written spelled takes _ _ _ blank _ _ := by
    obtain ⟨q, s, rfl, paired, rfl⟩ := takes
    cases spelled
    simp only [stringField, stringValueWritten blank paired, okBind]
    rfl

theorem anyFieldReads (name : String) (room : Nat) :
    (anyField name room).Reads (TakesAny room) where
  taken ok := by
    obtain ⟨spaces, tree, text, parts, blank, spelled, denotes, shallow⟩ :=
      readsWritten (valueReads ok)
    exact ⟨spaces, tree, text, parts, blank, spelled, shallow, denotes⟩
  written spelled takes _ _ _ blank ends enough :=
    valueRuns (writtenReads spelled takes.2 takes.1 blank ends) enough

theorem fuelAfter {spaces t : List Char} {c : Char} {fuel : Nat} (blank : Spaces spaces)
    (solid : isSpace c = false) (enough : (spaces ++ c :: t).length ≤ fuel) :
    ∃ left, fuel = left + 1 ∧ skipSpace (spaces ++ c :: t) = c :: t ∧ t.length ≤ left := by
  have skipped : skipSpace (spaces ++ c :: t) = c :: t := skipSpaces blank solid
  obtain ⟨left, more, fits⟩ := fuelLeft skipped enough
  exact ⟨left, more, skipped, fits⟩

theorem partFits {first second : List Char} {fuel : Nat}
    (enough : (first ++ second).length ≤ fuel) : second.length ≤ fuel :=
  Nat.le_trans (List.sublist_append_right first second).length_le enough

section
variable {known : List Field} {takes : String → Tree → Json → Prop}

inductive AddsMember (known : List Field) (takes : String → Tree → Json → Prop)
    (seen : List (String × Json)) (name : String) (tree : Tree) :
    (found : List (String × Json)) → Prop where
  | known {v} (isKnown : name ∈ known.map Field.name) (unseen : seen.lookup name = none)
      (taken : takes name tree v) : AddsMember known takes seen name tree (seen ++ [(name, v)])
  | other (unknown : name ∉ known.map Field.name) : AddsMember known takes seen name tree seen

inductive AddsMembers (known : List Field) (takes : String → Tree → Json → Prop) :
    (seen : List (String × Json)) → List (Quoted × Tree) → (found : List (String × Json)) →
      Prop where
  | nil {seen} : AddsMembers known takes seen [] seen
  | cons {seen key name tree members found all} (named : Quoted.string? key = some name)
      (first : AddsMember known takes seen name tree found)
      (others : AddsMembers known takes found members all) :
      AddsMembers known takes seen ((key, tree) :: members) all

theorem knownFound {name : String} {field : Field}
    (found : known.find? (·.name = name) = some field) : field ∈ known ∧ field.name = name :=
  ⟨List.mem_of_find?_eq_some found, by simpa using List.find?_some found⟩

theorem unknownNotFound {name : String} :
    known.find? (·.name = name) = none ↔ name ∉ known.map Field.name := by
  simp [List.find?_eq_none]

theorem memberTaken (reads : ∀ field ∈ known, field.Reads (takes field.name)) {fuel : Nat}
    {seen found : List (String × Json)} {name : String} {s rest : List Char}
    (ok : memberValue known seen fuel name s = .ok (found, rest)) :
    ∃ colon tree text, s = colon ++ (text ++ rest) ∧ WrittenColon colon ∧ Written tree text ∧
      AddsMember known takes seen name tree found := by
  unfold memberValue at ok
  split at ok
  · rename_i field isField
    obtain ⟨isKnown, rfl⟩ := knownFound isField
    split at ok
    · exact (refuseRepeatedNotOk.mp ok).elim
    · rename_i unseen
      obtain ⟨t, separated, ok⟩ := bindOk.mp ok
      obtain ⟨⟨v, u⟩, read, same⟩ := bindOk.mp ok
      cases same
      obtain ⟨before, rfl, blankBefore⟩ := skippedParts (colonOk separated)
      obtain ⟨after, tree, text, rfl, blankAfter, written, taken⟩ :=
        (reads field isKnown).taken read
      refine ⟨before ++ ':' :: after, tree, text, by simp, .intro blankBefore blankAfter, written,
        .known (List.mem_map_of_mem isKnown) (Option.not_isSome_iff_eq_none.mp unseen) taken⟩
  · rename_i notField
    obtain ⟨t, separated, ok⟩ := bindOk.mp ok
    obtain ⟨u, read, same⟩ := bindOk.mp ok
    cases same
    obtain ⟨before, rfl, blankBefore⟩ := skippedParts (colonOk separated)
    obtain ⟨after, tree, text, rfl, blankAfter, written⟩ := checksWritten (valueChecks read)
    exact ⟨before ++ ':' :: after, tree, text, by simp, .intro blankBefore blankAfter, written,
      .other (unknownNotFound.mp notField)⟩

theorem writtenMember (reads : ∀ field ∈ known, field.Reads (takes field.name)) {fuel : Nat}
    {seen found : List (String × Json)} {name : String} {tree : Tree}
    (adds : AddsMember known takes seen name tree found) {colon text rest : List Char}
    (separated : WrittenColon colon) (written : Written tree text) (ends : EndsNumber rest)
    (enough : (colon ++ (text ++ rest)).length ≤ fuel) :
    memberValue known seen fuel name (colon ++ (text ++ rest)) = .ok (found, rest) := by
  obtain @⟨before, after, blankBefore, blankAfter⟩ := separated
  simp only [List.append_assoc, List.cons_append] at enough ⊢
  have fits := Nat.le_trans (Nat.le_succ _) (partFits enough)
  have separated : colon (before ++ ':' :: (after ++ (text ++ rest))) =
      .ok (after ++ (text ++ rest)) := colonTaken (skipSpaces blankBefore rfl)
  cases adds with
  | known isKnown unseen taken =>
    cases isField : known.find? (·.name = name) with
    | none => exact absurd isKnown (unknownNotFound.mp isField)
    | some field =>
      obtain ⟨inKnown, rfl⟩ := knownFound isField
      have read := (reads field inKnown).written written taken blankAfter ends fits
      simp only [memberValue, isField, unseen, separated, read, okBind]
      rfl
  | other unknown =>
    have read := checkRuns (writtenChecks written blankAfter ends) fits
    simp only [memberValue, unknownNotFound.mpr unknown, separated, read, okBind]
    rfl

theorem moreFieldsTaken (reads : ∀ field ∈ known, field.Reads (takes field.name)) {fuel : Nat}
    {seen found : List (String × Json)} {s rest : List Char}
    (ok : moreFields known fuel seen s = .ok (found, rest)) : ∃ members text, s = text ++ rest ∧
      WrittenMembers members text ∧ AddsMembers known takes seen members found := by
  induction fuel generalizing seen s with
  | zero => exact (refuseNotOk.mp ok).elim
  | succ fuel ih =>
    rw [moreFields] at ok
    split at ok
    · exact (refuseNotOk.mp ok).elim
    · rename_i skipped
      cases ok
      obtain ⟨spaces, rfl, blank⟩ := skippedParts skipped
      exact ⟨[], _, by simp, .close blank, .nil⟩
    · rename_i skipped
      obtain ⟨t, opened, ok⟩ := bindOk.mp ok
      obtain ⟨⟨name, u⟩, read, ok⟩ := bindOk.mp ok
      obtain ⟨⟨more, w⟩, first, others⟩ := bindOk.mp ok
      obtain ⟨before, rfl, blankBefore⟩ := skippedParts skipped
      obtain ⟨after, rfl, blankAfter⟩ := skippedParts (keyOpeningOk opened)
      obtain ⟨key, rfl, named⟩ := usedString.mp read
      obtain ⟨colon, tree, text, rfl, separated, written, adds⟩ := memberTaken reads first
      obtain ⟨members, texts, rfl, writtenOthers, addsOthers⟩ := ih others
      exact ⟨(key, tree) :: members, _, by simp [Quoted.text],
        .next blankBefore blankAfter separated written writtenOthers, .cons named adds addsOthers⟩
    · exact (refuseNextNotOk.mp ok).elim

/-- By induction on the members: what is left after one is shorter, and so is the fuel. -/
theorem writtenMoreFields (reads : ∀ field ∈ known, field.Reads (takes field.name))
    {seen found : List (String × Json)} {members : List (Quoted × Tree)}
    (adds : AddsMembers known takes seen members found) {text rest : List Char}
    (written : WrittenMembers members text) {fuel : Nat} (enough : (text ++ rest).length ≤ fuel) :
    moreFields known fuel seen (text ++ rest) = .ok (found, rest) := by
  induction adds generalizing text fuel with
  | nil =>
    cases written with
    | close blank =>
      rw [List.append_assoc, List.singleton_append] at enough ⊢
      obtain ⟨fuel, rfl, skipped, _⟩ := fuelAfter blank rfl enough
      rw [moreFields, skipped]
      rfl
  | cons named adds addsOthers ih =>
    cases written with
    | next blankBefore blankAfter separated written writtenOthers =>
      simp only [List.append_assoc, List.cons_append] at enough ⊢
      obtain ⟨fuel, rfl, skipped, inside⟩ := fuelAfter blankBefore rfl enough
      have inMember := partFits (partFits inside)
      have read := writtenMember reads adds separated written (writtenMembersEnd writtenOthers rest)
        inMember
      rw [moreFields, skipped]
      simp only [keyOpened (skipToKey blankAfter), stringSpelled named, read, okBind]
      exact ih writtenOthers (partFits (partFits inMember))

theorem fieldsTaken (reads : ∀ field ∈ known, field.Reads (takes field.name)) {fuel : Nat}
    {found : List (String × Json)} {s rest : List Char}
    (ok : fields known fuel s = .ok (found, rest)) : ∃ members text,
      '\x7b' :: s = text ++ rest ∧ Written (.object members) text ∧
      AddsMembers known takes [] members found := by
  unfold fields at ok
  split at ok
  · exact (refuseNotOk.mp ok).elim
  · rename_i skipped
    cases ok
    obtain ⟨spaces, rfl, blank⟩ := skippedParts skipped
    exact ⟨[], _, by simp, .noMembers blank, .nil⟩
  · obtain ⟨t, opened, ok⟩ := bindOk.mp ok
    obtain ⟨⟨name, u⟩, read, ok⟩ := bindOk.mp ok
    obtain ⟨⟨more, w⟩, first, others⟩ := bindOk.mp ok
    have opened := keyOpeningOk opened
    rw [skipSpaceTwice] at opened
    obtain ⟨spaces, rfl, blank⟩ := skippedParts opened
    obtain ⟨key, rfl, named⟩ := usedString.mp read
    obtain ⟨colon, tree, text, rfl, separated, written, adds⟩ := memberTaken reads first
    obtain ⟨members, texts, rfl, writtenOthers, addsOthers⟩ := moreFieldsTaken reads others
    exact ⟨(key, tree) :: members, _, by simp [Quoted.text],
      .object blank separated written writtenOthers, .cons named adds addsOthers⟩

theorem writtenFields (reads : ∀ field ∈ known, field.Reads (takes field.name))
    {found : List (String × Json)} {members : List (Quoted × Tree)}
    (adds : AddsMembers known takes [] members found) {text s rest : List Char}
    (written : Written (.object members) text) (parts : text ++ rest = '\x7b' :: s) {fuel : Nat}
    (enough : s.length ≤ fuel) : fields known fuel s = .ok (found, rest) := by
  cases written with
  | noMembers blank =>
    cases adds
    simp only [List.cons_append, List.append_assoc, List.nil_append, List.cons.injEq] at parts
    rw [← parts.2, fields, skipSpaces blank rfl]
    rfl
  | object blank separated written writtenOthers =>
    cases adds with
    | cons named adds addsOthers =>
      simp only [List.cons_append, List.append_assoc, List.cons.injEq] at parts
      obtain ⟨_, rfl⟩ := parts
      have inMember := partFits (partFits enough)
      have read := writtenMember reads adds separated written (writtenMembersEnd writtenOthers rest)
        inMember
      have others := writtenMoreFields reads addsOthers writtenOthers
        (partFits (partFits inMember))
      rw [fields, skipToKey blank]
      change (keyOpening .endInObject .keyNotString _ >>= _) = _
      rw [keyOpened (skipSpaceSolid rfl _)]
      simp only [stringSpelled named, read, okBind]
      exact others

def valuesOf (name : String) (members : List (Quoted × Tree)) : List Tree :=
  (members.filter (·.1.string? = some name)).map Prod.snd

inductive Finds (takes : Tree → Json → Prop) :
    (before : Option Json) → List Tree → (after : Option Json) → Prop where
  | nothing {before} : Finds takes before [] before
  | once {tree v} (taken : takes tree v) : Finds takes none [tree] (some v)

theorem findsNothing {takes : Tree → Json → Prop} {before after : Option Json}
    (finds : Finds takes before [] after) : before = after := by
  cases finds
  rfl

theorem valuesOfCons {key : Quoted} {keyName : String} (named : key.string? = some keyName)
    (name : String) (tree : Tree) (members : List (Quoted × Tree)) :
    valuesOf name ((key, tree) :: members) =
      if keyName = name then tree :: valuesOf name members else valuesOf name members := by
  simp only [valuesOf, List.filter_cons, named, Option.some.injEq, decide_eq_true_eq]
  split <;> rfl

theorem addsNamed {seen found : List (String × Json)} {members : List (Quoted × Tree)}
    (adds : AddsMembers known takes seen members found) :
    ∀ member ∈ members, ∃ name, member.1.string? = some name := by
  induction adds with
  | nil => exact fun _ member => absurd member List.not_mem_nil
  | cons named _ _ ih => exact List.forall_mem_cons.mpr ⟨⟨_, named⟩, ih⟩

theorem lookupAdded {seen : List (String × Json)} {name : String}
    (unseen : seen.lookup name = none) (v : Json) : (seen ++ [(name, v)]).lookup name = some v := by
  rw [List.lookup_append, unseen, List.lookup_cons_self, Option.none_or]

theorem lookupBeside {keyName name : String} (different : keyName ≠ name)
    (seen : List (String × Json)) (v : Json) :
    (seen ++ [(keyName, v)]).lookup name = seen.lookup name := by
  have other : (name == keyName) = false := beq_false_of_ne different.symm
  rw [List.lookup_append, List.lookup_cons, other]
  exact Option.or_none

theorem addsFinds {seen found : List (String × Json)} {members : List (Quoted × Tree)}
    (adds : AddsMembers known takes seen members found) {name : String}
    (isKnown : name ∈ known.map Field.name) :
    Finds (takes name) (seen.lookup name) (valuesOf name members) (found.lookup name) := by
  induction adds with
  | nil => exact .nothing
  | @cons seen key keyName tree members between found named first others ih =>
    rw [valuesOfCons named]
    by_cases same : keyName = name
    · subst same
      rw [if_pos rfl]
      cases first with
      | known _ unseen taken =>
        rw [lookupAdded unseen] at ih
        rw [unseen]
        -- Nothing more of this name can follow.
        generalize valuesOf keyName members = more at ih ⊢
        generalize found.lookup keyName = after at ih ⊢
        cases ih
        exact .once taken
      | other unknown => exact absurd isKnown unknown
    · rw [if_neg same]
      cases first with
      | known => rwa [lookupBeside same] at ih
      | other => exact ih

theorem findsAdds {members : List (Quoted × Tree)} {seen : List (String × Json)}
    (named : ∀ member ∈ members, ∃ name, member.1.string? = some name)
    {after : String → Option Json} (finds : ∀ name ∈ known.map Field.name,
      Finds (takes name) (seen.lookup name) (valuesOf name members) (after name)) :
    ∃ found, AddsMembers known takes seen members found ∧
      ∀ name ∈ known.map Field.name, found.lookup name = after name := by
  induction members generalizing seen with
  | nil =>
    refine ⟨seen, .nil, fun name isKnown => ?_⟩
    exact findsNothing (finds name isKnown)
  | cons member members ih =>
    obtain ⟨key, tree⟩ := member
    obtain ⟨⟨keyName, isKey⟩, namedOthers⟩ := List.forall_mem_cons.mp named
    have findsOther : ∀ name ∈ known.map Field.name, keyName ≠ name →
        Finds (takes name) (seen.lookup name) (valuesOf name members) (after name) := by
      intro name isKnown different
      have found := finds name isKnown
      rwa [valuesOfCons isKey, if_neg different] at found
    by_cases isKnown : keyName ∈ known.map Field.name
    · have found := finds keyName isKnown
      rw [valuesOfCons isKey, if_pos rfl] at found
      generalize unseen : seen.lookup keyName = before at found
      generalize nothing : valuesOf keyName members = more at found
      generalize value : after keyName = last at found
      cases found with
      | @once _ v taken =>
        obtain ⟨all, others, same⟩ := @ih (seen ++ [(keyName, v)]) namedOthers
            fun name inKnown => by
          by_cases same : keyName = name
          · subst same
            rw [nothing, lookupAdded unseen, value]
            exact .nothing
          · rw [lookupBeside same]
            exact findsOther name inKnown same
        exact ⟨all, .cons isKey (.known isKnown unseen taken) others, same⟩
    · obtain ⟨all, others, same⟩ := ih namedOthers fun name inKnown =>
        findsOther name inKnown fun same => isKnown (same ▸ inKnown)
      exact ⟨all, .cons isKey (.other isKnown) others, same⟩

end

end SvelteTransform.Json
