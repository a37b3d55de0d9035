import SvelteTransform.Proofs.Json.Steps
import SvelteTransform.Proofs.Json.Reread.Lexical

/-! A value without binary numbers is read back from its text with its keys in order, if it nests
no deeper than there is room for; if it does, that is why it is refused. -/
namespace SvelteTransform.Json
open Reader

mutual
def settled : Json → Json
  | .array items => .array (settledItems items)
  | .object members => .object (Fields.ofList (settledMembers members))
  | v => v
def settledItems : List Json → List Json
  | [] => []
  | v :: rest => settled v :: settledItems rest
def settledMembers : List (String × Json) → List (String × Json)
  | [] => []
  | (k, v) :: rest => (k, settled v) :: settledMembers rest
end

mutual
theorem settledSame : (v : Json) → Ordered v → settled v = v
  | .null, _ | .boolean _, _ | .number _, _ | .string _, _ => rfl
  | .array items, ordered => by rw [settled, settledItemsSame items ordered]
  | .object members, ordered => by
    rw [settled, settledMembersSame members ordered.2, Fields.ofListSame ordered.1]
theorem settledItemsSame : (items : List Json) → OrderedItems items → settledItems items = items
  | [], _ => rfl
  | v :: rest, ordered => by
    rw [settledItems, settledSame v ordered.1, settledItemsSame rest ordered.2]
theorem settledMembersSame :
    (members : List (String × Json)) → OrderedMembers members → settledMembers members = members
  | [], _ => rfl
  | (k, v) :: rest, ordered => by
    rw [settledMembers, settledSame v ordered.1, settledMembersSame rest ordered.2]
end

def Begins (c : Char) : Prop := isSpace c = false ∧ c ≠ ']' ∧ c ≠ '\x7d'

instance (c : Char) : Decidable (Begins c) :=
  inferInstanceAs (Decidable (_ ∧ _))

theorem textBegins {v : Json} (whole : v.isWhole = true) (rest : List Char) :
    ∃ c s, text v ++ rest = c :: s ∧ Begins c := by
  cases v with
  | null => exact ⟨_, _, rfl, by decide⟩
  | boolean b => cases b <;> exact ⟨_, _, rfl, by decide⟩
  | number n =>
    obtain ⟨c, s, same, starts⟩ := numberStarts whole
    obtain ⟨solid, others⟩ := startsNumberSolid starts
    refine ⟨c, s ++ rest, by rw [text, same, List.cons_append], solid, ?_, ?_⟩
    · rintro rfl
      exact others (by decide)
    · rintro rfl
      exact others (by decide)
  | string s => exact ⟨_, _, rfl, by decide⟩
  | array items => cases items <;> exact ⟨_, _, rfl, by decide⟩
  | object members => cases members <;> exact ⟨_, _, rfl, by decide⟩

def Ends (rest : List Char) : Prop :=
  ∀ c, rest.head? = some c → c = ',' ∨ c = ']' ∨ c = '\x7d'

theorem Ends.number {rest : List Char} (ends : Ends rest) : EndsNumber rest := by
  intro c head
  rcases ends c head with rfl | rfl | rfl <;> decide

theorem itemsTextEnds (items : List Json) (rest : List Char) : Ends (itemsText items ++ rest) := by
  intro c head
  cases items <;> cases head
  · exact .inr (.inl rfl)
  · exact .inl rfl

theorem membersTextEnds (members : List (String × Json)) (rest : List Char) :
    Ends (membersText members ++ rest) := by
  intro c head
  match members, head with
  | [], rfl => exact .inr (.inr rfl)
  | (_, _) :: _, rfl => exact .inl rfl

section
variable {fuel room : Nat} {s : List Char}

theorem scalarNext {c : Char} (solid : isSpace c = false) (noList : c ≠ '[')
    (noObject : c ≠ '\x7b') : Reader.value (fuel + 1) room (c :: s) = scalar c s := by
  rw [Reader.value, skipSpaceSolid solid]
  split
  · contradiction
  · rename_i same
    exact absurd (List.cons.inj same).1 noList
  · rename_i same
    exact absurd (List.cons.inj same).1 noObject
  · rename_i same
    cases same
    rfl

theorem scalarNumber {c : Char} (starts : startsNumber c = true) :
    scalar c s = Reader.number c s >>= fun (n, s) => .ok (.number n, s) := by
  have others := (startsNumberSolid starts).2
  unfold scalar
  split
  case h_5 =>
    rw [startsNumber] at starts
    rw [if_pos starts]
    rfl
  all_goals exact absurd (by decide) others

theorem arrayNext {c : Char} {more : List Char} (same : s = c :: more) (begins : Begins c) :
    Reader.value (fuel + 1) (room + 1) ('[' :: s) =
      Reader.value fuel room s >>= fun (v, s) =>
        moreItems fuel room s >>= fun (rest, s) => .ok (.array (v :: rest), s) := by
  obtain ⟨solid, notClosing, _⟩ := begins
  rw [Reader.value, skipSpaceSolid rfl]
  simp only [same, skipSpaceSolid solid]
  split
  · contradiction
  · rename_i closing
    exact absurd (List.cons.inj closing).1 notClosing
  · rfl

theorem quoteOpens (atEnd atBrace : Cause) :
    keyOpening atEnd atBrace ('"' :: s) = .ok s := rfl

theorem colonRead : colon (':' :: s) = .ok s := rfl

theorem objectNext {key : String} : Reader.value (fuel + 1) (room + 1)
      ('\x7b' :: (stringText key ++ ':' :: s)) =
      Reader.value fuel room s >>= fun (v, s) =>
        moreMembers fuel room s >>= fun (rest, s) =>
          .ok (.object (Fields.ofList ((key, v) :: rest)), s) := by
  have quote : isSpace '"' = false := rfl
  rw [Reader.value, skipSpaceSolid rfl, stringTextAppend]
  simp only [skipSpaceSolid quote]
  split
  · contradiction
  · rename_i closing
    cases closing
  · simp only [quoteOpens, okBind, stringRead, colonRead]
    rfl

theorem itemsNext {c : Char} {more : List Char} (same : s = c :: more) (begins : Begins c) :
    moreItems (fuel + 1) room (',' :: s) =
      Reader.value fuel room s >>= fun (v, s) =>
        moreItems fuel room s >>= fun (rest, s) => .ok (v :: rest, s) := by
  obtain ⟨solid, notClosing, _⟩ := begins
  rw [moreItems, skipSpaceSolid rfl]
  simp only [same, skipSpaceSolid solid]
  split
  · contradiction
  · rename_i closing
    exact absurd (List.cons.inj closing).1 notClosing
  · rfl

theorem membersNext {key : String} :
    moreMembers (fuel + 1) room (',' :: (stringText key ++ ':' :: s)) =
      Reader.value fuel room s >>= fun (v, s) =>
        moreMembers fuel room s >>= fun (rest, s) => .ok ((key, v) :: rest, s) := by
  rw [moreMembers, skipSpaceSolid rfl, stringTextAppend]
  simp only [quoteOpens, okBind, stringRead, colonRead]
  rfl

theorem scalarRead {v : Json} (whole : v.isWhole = true) (flat : nesting v = 0) {rest : List Char}
    (ends : Ends rest) : Reader.value (fuel + 1) room (text v ++ rest) = .ok (settled v, rest) := by
  cases v with
  | null => rfl
  | boolean b => cases b <;> rfl
  | number n =>
    obtain ⟨c, s, same, starts⟩ := numberStarts whole
    obtain ⟨solid, others⟩ := startsNumberSolid starts
    have after : numberText n ++ rest = c :: (s ++ rest) := by rw [same, List.cons_append]
    have noList : c ≠ '[' := by
      rintro rfl
      exact others (by decide)
    have noObject : c ≠ '\x7b' := by
      rintro rfl
      exact others (by decide)
    rw [text, after, scalarNext solid noList noObject, scalarNumber starts,
      numberRead whole ends.number after]
    rfl
  | string s =>
    rw [text, stringTextAppend, scalarNext (by rfl) (by decide) (by decide)]
    simp only [scalar, stringRead, okBind]
    rfl
  | array => cases flat
  | object => cases flat

end

/-- What comes of reading something that nests so deep: with room enough what is expected, and in
all other cases nothing but the limit is wrong. -/
structure Settles {α : Type} (room nesting : Nat) (got : Except Fault α) (expected : α) : Prop where
  shallow : nesting ≤ room → got = .ok expected
  deep : room < nesting → ∃ unread, got = .error ⟨.tooDeep, unread⟩

namespace Settles
variable {α β γ : Type} {room m n : Nat}

theorem flat {got : Except Fault α} {expected : α} (same : got = .ok expected) :
    Settles room 0 got expected :=
  ⟨fun _ => same, fun less => absurd less (Nat.not_lt_zero room)⟩

theorem closed {s : List Char} {expected : α} :
    Settles 0 (n + 1) (refuseNext .tooDeep s) expected :=
  ⟨fun fits => absurd fits (Nat.not_succ_le_zero n), fun _ => ⟨_, rfl⟩⟩

theorem deeper {got : Except Fault α} {expected : α} (inner : Settles room n got expected) :
    Settles (room + 1) (n + 1) got expected :=
  ⟨fun fits => inner.shallow (Nat.le_of_succ_le_succ fits),
    fun less => inner.deep (Nat.lt_of_succ_lt_succ less)⟩

theorem andThen {got : Except Fault (α × List Char)}
    {next : List Char → Except Fault (β × List Char)} {a : α} {b : β} {between rest : List Char}
    (first : Settles room m got (a, between)) (second : Settles room n (next between) (b, rest))
    (f : α → β → γ) :
    Settles room (max m n) (got >>= fun (a, s) => next s >>= fun (b, s) => .ok (f a b, s))
      (f a b, rest) := by
  refine ⟨fun fits => ?_, fun less => ?_⟩
  · rw [first.shallow (Nat.le_trans (Nat.le_max_left m n) fits), okBind]
    simp only [second.shallow (Nat.le_trans (Nat.le_max_right m n) fits), okBind]
  · rcases Nat.lt_or_ge room m with deep | fits
    · obtain ⟨unread, failed⟩ := first.deep deep
      exact ⟨unread, by rw [failed]; rfl⟩
    · have deep : room < n := by omega
      obtain ⟨unread, failed⟩ := second.deep deep
      refine ⟨unread, ?_⟩
      rw [first.shallow fits, okBind]
      simp only [failed]
      rfl

theorem bind {got : Except Fault α} {a : α} {next : α → Except Fault β} {b : β}
    (first : Settles room n got a) (same : next a = .ok b) : Settles room n (got >>= next) b := by
  refine ⟨fun fits => ?_, fun less => ?_⟩
  · rw [first.shallow fits, okBind, same]
  · obtain ⟨unread, failed⟩ := first.deep less
    exact ⟨unread, by rw [failed]; rfl⟩

end Settles

theorem laterShorter {first second : List Char} {fuel : Nat}
    (enough : (first ++ second).length ≤ fuel) : second.length ≤ fuel :=
  Nat.le_trans (List.sublist_append_right first second).length_le enough

/-
By induction on what was printed. Each step of a reader takes a character of it before it spends
fuel, so fuel for the text is fuel for each of its parts.
-/
mutual
theorem valueSettles : (v : Json) → v.isWhole = true → (room : Nat) →
    ∀ {fuel : Nat} {rest : List Char}, (text v ++ rest).length ≤ fuel → Ends rest →
      Settles room (nesting v) (Reader.value fuel room (text v ++ rest)) (settled v, rest)
  | v, whole, room, 0, rest, enough, ends => by
    obtain ⟨c, s, same, _⟩ := textBegins whole rest
    rw [same] at enough
    cases enough
  | .array [], _, 0, fuel + 1, rest, _, _ => .closed
  | .array [], _, room + 1, fuel + 1, rest, _, _ => .deeper (.flat rfl)
  | .array (_ :: _), _, 0, fuel + 1, rest, _, _ => .closed
  | .array (v :: items), whole, room + 1, fuel + 1, rest, enough, ends => by
    rw [isWhole, areWhole, Bool.and_eq_true] at whole
    simp only [text, List.cons_append, List.append_assoc, List.length_cons,
      Nat.add_le_add_iff_right] at enough ⊢
    obtain ⟨c, s, same, begins⟩ := textBegins whole.1 (itemsText items ++ rest)
    have first := valueSettles v whole.1 room enough (itemsTextEnds items rest)
    have others := itemsSettle items whole.2 room (laterShorter enough)
    rw [arrayNext same begins]
    exact (first.andThen others fun v rest => Json.array (v :: rest)).deeper
  | .object [], _, 0, fuel + 1, rest, _, _ => .closed
  | .object [], _, room + 1, fuel + 1, rest, _, _ => by
    rw [settled, settledMembers, Fields.ofListSame (show Fields.Ordered [] from List.Pairwise.nil)]
    exact .deeper (.flat rfl)
  | .object ((_, _) :: _), _, 0, fuel + 1, rest, _, _ => .closed
  | .object ((k, v) :: members), whole, room + 1, fuel + 1, rest, enough, ends => by
    rw [isWhole, membersWhole, Bool.and_eq_true] at whole
    simp only [text, List.cons_append, List.append_assoc, List.length_cons,
      Nat.add_le_add_iff_right] at enough ⊢
    have inValue := Nat.le_of_succ_le (laterShorter enough)
    have first := valueSettles v whole.1 room inValue (membersTextEnds members rest)
    have others := membersSettle members whole.2 room (laterShorter inValue)
    rw [objectNext]
    exact (first.andThen others fun v rest => Json.object (Fields.ofList ((k, v) :: rest))).deeper
  | .null, whole, room, fuel + 1, rest, _, ends => .flat (scalarRead whole rfl ends)
  | .boolean _, whole, room, fuel + 1, rest, _, ends => .flat (scalarRead whole rfl ends)
  | .number _, whole, room, fuel + 1, rest, _, ends => .flat (scalarRead whole rfl ends)
  | .string _, whole, room, fuel + 1, rest, _, ends => .flat (scalarRead whole rfl ends)
theorem itemsSettle : (items : List Json) → areWhole items = true →
    (room : Nat) → ∀ {fuel : Nat} {rest : List Char}, (itemsText items ++ rest).length ≤ fuel →
      Settles room (nestingItems items) (moreItems fuel room (itemsText items ++ rest))
        (settledItems items, rest)
  | [], _, room, fuel + 1, rest, _ => .flat rfl
  | v :: items, whole, room, fuel + 1, rest, enough => by
    rw [areWhole, Bool.and_eq_true] at whole
    simp only [itemsText, List.cons_append, List.append_assoc, List.length_cons,
      Nat.add_le_add_iff_right] at enough ⊢
    obtain ⟨c, s, same, begins⟩ := textBegins whole.1 (itemsText items ++ rest)
    have first := valueSettles v whole.1 room enough (itemsTextEnds items rest)
    have others := itemsSettle items whole.2 room (laterShorter enough)
    rw [itemsNext same begins]
    exact first.andThen others List.cons
theorem membersSettle : (members : List (String × Json)) → membersWhole members = true →
    (room : Nat) → ∀ {fuel : Nat} {rest : List Char}, (membersText members ++ rest).length ≤ fuel →
      Settles room (nestingMembers members) (moreMembers fuel room (membersText members ++ rest))
        (settledMembers members, rest)
  | [], _, room, fuel + 1, rest, _ => .flat rfl
  | (k, v) :: members, whole, room, fuel + 1, rest, enough => by
    rw [membersWhole, Bool.and_eq_true] at whole
    simp only [membersText, List.cons_append, List.append_assoc, List.length_cons,
      Nat.add_le_add_iff_right] at enough ⊢
    have inValue := Nat.le_of_succ_le (laterShorter enough)
    have first := valueSettles v whole.1 room inValue (membersTextEnds members rest)
    have others := membersSettle members whole.2 room (laterShorter inValue)
    rw [membersNext]
    exact first.andThen others fun v rest => (k, v) :: rest
end

section
variable {known : List Field} {seen : List (String × Json)} {fuel : Nat} {name : String}
variable {s : List Char}

theorem memberKnown (field : Field) (found : known.find? (·.name = name) = some field)
    (unseen : seen.lookup name = none) : memberValue known seen fuel name (':' :: s) =
      field.value fuel s >>= fun (v, s) => .ok (seen ++ [(name, v)], s) := by
  simp only [memberValue, found, unseen, Option.isSome_none, Bool.false_eq_true, if_false,
    colonRead, okBind]
  rfl

theorem fieldsNext : fields known fuel (stringText name ++ ':' :: s) =
    memberValue known [] fuel name (':' :: s) >>= fun (seen, s) =>
      moreFields known fuel seen s := by
  have quote : isSpace '"' = false := rfl
  rw [stringTextAppend]
  simp only [fields, skipSpaceSolid quote]
  split
  · contradiction
  · rename_i closing
    cases closing
  · simp only [quoteOpens, okBind, stringRead]

theorem moreFieldsNext : moreFields known (fuel + 1) seen (',' :: (stringText name ++ ':' :: s)) =
    memberValue known seen fuel name (':' :: s) >>= fun (seen, s) =>
      moreFields known fuel seen s := by
  rw [moreFields, skipSpaceSolid rfl, stringTextAppend]
  simp only [quoteOpens, okBind, stringRead]

theorem stringFieldRead (field : String) (text : String) :
    (stringField field).value fuel (stringText text ++ s) = .ok (.string text, s) := by
  have read : scalar '"' (text.toList.flatMap escape ++ '"' :: s) = .ok (.string text, s) := by
    simp only [scalar, stringRead, okBind]
    rfl
  have quote : isSpace '"' = false := rfl
  rw [stringTextAppend]
  simp only [stringField, stringValue, skipSpaceSolid quote]
  split
  · contradiction
  · rename_i opening
    cases opening
  · rename_i opening
    cases opening
  · rename_i same
    cases same
    rw [read]
    rfl

end

end SvelteTransform.Json
