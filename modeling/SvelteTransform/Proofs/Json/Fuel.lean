import SvelteTransform.Proofs.Json.Brackets.Readers

/-! Fuel for every character of a text is enough: whatever has a derivation is read. So the
derivations are exactly what the readers do, and nothing more needs to be said of fuel. -/
namespace SvelteTransform.Json
open Reader Brackets

theorem skippedLonger {s t : List Char} {c : Char} (skipped : skipSpace s = c :: t) :
    t.length < s.length := by
  have shorter := (List.dropWhile_sublist isSpace (l := s)).length_le
  rw [show s.dropWhile isSpace = c :: t from skipped, List.length_cons] at shorter
  exact shorter

theorem fuelLeft {s t : List Char} {c : Char} {fuel : Nat} (skipped : skipSpace s = c :: t)
    (enough : s.length ≤ fuel) : ∃ left, fuel = left + 1 ∧ t.length ≤ left := by
  have longer := skippedLonger skipped
  exact ⟨fuel - 1, by omega, by omega⟩

theorem closesShorter {side : Side} {s rest : List Char} (closes : Closes side s rest) :
    rest.length ≤ s.length := by
  obtain ⟨used, rfl, _⟩ := closes
  exact (List.sublist_append_right used rest).length_le

theorem skipSpaceShorter (s : List Char) : (skipSpace s).length ≤ s.length :=
  closesShorter (closesSpace s)

theorem skipSpaceTwice (s : List Char) : skipSpace (skipSpace s) = skipSpace s :=
  Text.dropWhileNone Text.dropWhileStop

theorem keyOpened {s t : List Char} (skipped : skipSpace s = '"' :: t) (atEnd atBrace : Cause) :
    keyOpening atEnd atBrace s = .ok t := by
  rw [keyOpening, skipped]
  rfl

theorem colonTaken {s rest : List Char} (skipped : skipSpace s = ':' :: rest) :
    colon s = .ok rest := by
  rw [colon, skipped]
  rfl

theorem scalarSolid {c : Char} {s : List Char} {got : Json × List Char}
    (ok : Reader.scalar c s = .ok got) : c ∉ ['[', ']', '\x7b', '\x7d'] := by
  intro bracket
  simp only [List.mem_cons, List.not_mem_nil, or_false] at bracket
  rcases bracket with rfl | rfl | rfl | rfl <;> exact (refuseNextNotOk.mp ok).elim

theorem checkScalarSolid {c : Char} {s rest : List Char} (ok : checkScalar c s = .ok rest) :
    c ∉ ['[', ']', '\x7b', '\x7d'] := by
  intro bracket
  simp only [List.mem_cons, List.not_mem_nil, or_false] at bracket
  rcases bracket with rfl | rfl | rfl | rfl <;> exact (refuseNextNotOk.mp ok).elim

theorem readsValueStarts {room : Nat} {s rest : List Char} {v : Json}
    (reads : ReadsValue room s v rest) : ∃ c t, skipSpace s = c :: t ∧ c ≠ ']' := by
  cases reads with
  | scalar skipped read =>
    refine ⟨_, _, skipped, ?_⟩
    rintro rfl
    exact scalarSolid read (by decide)
  | noItems skipped | array skipped | noMembers skipped | object skipped =>
    exact ⟨_, _, skipped, by decide⟩

theorem checksValueStarts {s rest : List Char} (checks : ChecksValue s rest) :
    ∃ c t, skipSpace s = c :: t ∧ c ≠ ']' := by
  cases checks with
  | scalar skipped read =>
    refine ⟨_, _, skipped, ?_⟩
    rintro rfl
    exact checkScalarSolid read (by decide)
  | noItems skipped | array skipped | noMembers skipped | object skipped =>
    exact ⟨_, _, skipped, by decide⟩

section
variable {fuel room : Nat} {s t : List Char}

theorem scalarStep {c : Char} {got : Json × List Char} (skipped : skipSpace s = c :: t)
    (read : Reader.scalar c t = .ok got) : Reader.value (fuel + 1) room s = .ok got := by
  have solid := scalarSolid read
  rw [Reader.value, skipped]
  split
  · contradiction
  · rename_i same
    cases same
    exact absurd (by decide) solid
  · rename_i same
    cases same
    exact absurd (by decide) solid
  · rename_i same
    cases same
    exact read

theorem arrayStep (skipped : skipSpace s = '[' :: t)
    (starts : ∃ c u, skipSpace t = c :: u ∧ c ≠ ']') :
    Reader.value (fuel + 1) (room + 1) s =
      Reader.value fuel room (skipSpace t) >>= fun (v, s) =>
        moreItems fuel room s >>= fun (rest, s) => .ok (.array (v :: rest), s) := by
  obtain ⟨c, u, same, notClosing⟩ := starts
  rw [Reader.value, skipped]
  simp only [same]
  split
  · contradiction
  · rename_i closing
    exact absurd (List.cons.inj closing).1 notClosing
  · rfl

theorem objectStep {key : String} {u : List Char} (skipped : skipSpace s = '\x7b' :: t)
    (named : ReadsKey .used (skipSpace t) key u) :
    Reader.value (fuel + 1) (room + 1) s =
      Reader.value fuel room u >>= fun (v, s) =>
        moreMembers fuel room s >>= fun (rest, s) =>
          .ok (.object (Fields.ofList ((key, v) :: rest)), s) := by
  obtain ⟨w, x, opened, read, separated⟩ := named
  have first := opened
  rw [skipSpaceTwice] at first
  rw [Reader.value, skipped]
  simp only [first]
  split
  · contradiction
  · rename_i closing
    cases closing
  · rename_i same
    rw [← first, keyOpened opened, okBind, read, okBind]
    simp only [colonTaken separated, okBind]
    rfl

theorem itemsStep (skipped : skipSpace s = ',' :: t)
    (starts : ∃ c u, skipSpace t = c :: u ∧ c ≠ ']') :
    moreItems (fuel + 1) room s =
      Reader.value fuel room (skipSpace t) >>= fun (v, s) =>
        moreItems fuel room s >>= fun (rest, s) => .ok (v :: rest, s) := by
  obtain ⟨c, u, same, notClosing⟩ := starts
  rw [moreItems, skipped]
  simp only [same]
  split
  · contradiction
  · rename_i closing
    exact absurd (List.cons.inj closing).1 notClosing
  · rfl

theorem membersStep {key : String} {u : List Char} (skipped : skipSpace s = ',' :: t)
    (named : ReadsKey .used t key u) :
    moreMembers (fuel + 1) room s =
      Reader.value fuel room u >>= fun (v, s) =>
        moreMembers fuel room s >>= fun (rest, s) => .ok ((key, v) :: rest, s) := by
  obtain ⟨w, x, opened, read, separated⟩ := named
  rw [moreMembers, skipped]
  simp only [keyOpened opened, read, colonTaken separated, okBind]
  rfl

theorem checkScalarStep {c : Char} {rest : List Char} (skipped : skipSpace s = c :: t)
    (read : checkScalar c t = .ok rest) : check (fuel + 1) s = .ok rest := by
  have solid := checkScalarSolid read
  rw [check, skipped]
  split
  · contradiction
  · rename_i same
    cases same
    exact absurd (by decide) solid
  · rename_i same
    cases same
    exact absurd (by decide) solid
  · rename_i same
    cases same
    exact read

theorem checkArrayStep (skipped : skipSpace s = '[' :: t)
    (starts : ∃ c u, skipSpace t = c :: u ∧ c ≠ ']') :
    check (fuel + 1) s = check fuel (skipSpace t) >>= checkItems fuel := by
  obtain ⟨c, u, same, notClosing⟩ := starts
  rw [check, skipped]
  simp only [same]
  split
  · contradiction
  · rename_i closing
    exact absurd (List.cons.inj closing).1 notClosing
  · rfl

theorem checkObjectStep {key : String} {u : List Char} (skipped : skipSpace s = '\x7b' :: t)
    (named : ReadsKey .discarded (skipSpace t) key u) :
    check (fuel + 1) s = check fuel u >>= checkMembers fuel := by
  obtain ⟨w, x, opened, read, separated⟩ := named
  have first := opened
  rw [skipSpaceTwice] at first
  rw [check, skipped]
  simp only [first]
  split
  · contradiction
  · rename_i closing
    cases closing
  · rw [← first]
    simp only [keyOpened opened, read, colonTaken separated, okBind]

theorem checkMembersStep {key : String} {u : List Char} (skipped : skipSpace s = ',' :: t)
    (named : ReadsKey .discarded t key u) :
    checkMembers (fuel + 1) s = check fuel u >>= checkMembers fuel := by
  obtain ⟨w, x, opened, read, separated⟩ := named
  rw [checkMembers, skipped]
  simp only [keyOpened opened, read, colonTaken separated, okBind]

end

/-
By induction on the derivation. What a step leaves to the readers after it is part of what it was
given, less the character that it took.
-/
mutual
theorem valueRuns : {room : Nat} → {s : List Char} → {v : Json} → {rest : List Char} →
    ReadsValue room s v rest → ∀ {fuel : Nat}, s.length ≤ fuel →
      Reader.value fuel room s = .ok (v, rest)
  | _, _, _, _, .scalar skipped read, _, enough => by
    obtain ⟨fuel, rfl, _⟩ := fuelLeft skipped enough
    exact scalarStep skipped read
  | _, _, _, _, .noItems skipped closed, _, enough => by
    obtain ⟨fuel, rfl, _⟩ := fuelLeft skipped enough
    rw [Reader.value, skipped]
    simp only [closed]
  | _, _, _, _, .array skipped first others, _, enough => by
    obtain ⟨fuel, rfl, inside⟩ := fuelLeft skipped enough
    have inFirst := Nat.le_trans (skipSpaceShorter _) inside
    have inOthers := Nat.le_trans (closesShorter (readsValueCloses first)) inFirst
    have starts := readsValueStarts first
    rw [skipSpaceTwice] at starts
    rw [arrayStep skipped starts, valueRuns first inFirst, okBind]
    simp only [itemsRun others inOthers, okBind]
  | _, _, _, _, .noMembers skipped closed, _, enough => by
    obtain ⟨fuel, rfl, _⟩ := fuelLeft skipped enough
    rw [Reader.value, skipped]
    simp only [closed]
  | _, _, _, _, .object skipped named first others, _, enough => by
    obtain ⟨fuel, rfl, inside⟩ := fuelLeft skipped enough
    have inKey := Nat.le_trans (skipSpaceShorter _) inside
    have inFirst := Nat.le_trans (closesShorter (readsKeyCloses named)) inKey
    have inOthers := Nat.le_trans (closesShorter (readsValueCloses first)) inFirst
    rw [objectStep skipped named, valueRuns first inFirst, okBind]
    simp only [membersRun others inOthers, okBind]
theorem itemsRun : {room : Nat} → {s : List Char} → {vs : List Json} → {rest : List Char} →
    ReadsItems room s vs rest → ∀ {fuel : Nat}, s.length ≤ fuel →
      moreItems fuel room s = .ok (vs, rest)
  | _, _, _, _, .close skipped, _, enough => by
    obtain ⟨fuel, rfl, _⟩ := fuelLeft skipped enough
    rw [moreItems, skipped]
    rfl
  | _, _, _, _, .next skipped first others, _, enough => by
    obtain ⟨fuel, rfl, inside⟩ := fuelLeft skipped enough
    have inFirst := Nat.le_trans (skipSpaceShorter _) inside
    have inOthers := Nat.le_trans (closesShorter (readsValueCloses first)) inFirst
    have starts := readsValueStarts first
    rw [skipSpaceTwice] at starts
    rw [itemsStep skipped starts, valueRuns first inFirst, okBind]
    simp only [itemsRun others inOthers, okBind]
theorem membersRun : {room : Nat} → {s : List Char} → {ms : List (String × Json)} →
    {rest : List Char} → ReadsMembers room s ms rest → ∀ {fuel : Nat}, s.length ≤ fuel →
      moreMembers fuel room s = .ok (ms, rest)
  | _, _, _, _, .close skipped, _, enough => by
    obtain ⟨fuel, rfl, _⟩ := fuelLeft skipped enough
    rw [moreMembers, skipped]
    rfl
  | _, _, _, _, .next skipped named first others, _, enough => by
    obtain ⟨fuel, rfl, inside⟩ := fuelLeft skipped enough
    have inFirst := Nat.le_trans (closesShorter (readsKeyCloses named)) inside
    have inOthers := Nat.le_trans (closesShorter (readsValueCloses first)) inFirst
    rw [membersStep skipped named, valueRuns first inFirst, okBind]
    simp only [membersRun others inOthers, okBind]
end

mutual
theorem checkRuns : {s rest : List Char} → ChecksValue s rest → ∀ {fuel : Nat},
    s.length ≤ fuel → check fuel s = .ok rest
  | _, _, .scalar skipped read, _, enough => by
    obtain ⟨fuel, rfl, _⟩ := fuelLeft skipped enough
    exact checkScalarStep skipped read
  | _, _, .noItems skipped closed, _, enough => by
    obtain ⟨fuel, rfl, _⟩ := fuelLeft skipped enough
    rw [check, skipped]
    simp only [closed]
  | _, _, .array skipped first others, _, enough => by
    obtain ⟨fuel, rfl, inside⟩ := fuelLeft skipped enough
    have inFirst := Nat.le_trans (skipSpaceShorter _) inside
    have inOthers := Nat.le_trans (closesShorter (checksValueCloses first)) inFirst
    have starts := checksValueStarts first
    rw [skipSpaceTwice] at starts
    rw [checkArrayStep skipped starts, checkRuns first inFirst, okBind]
    exact checkItemsRun others inOthers
  | _, _, .noMembers skipped closed, _, enough => by
    obtain ⟨fuel, rfl, _⟩ := fuelLeft skipped enough
    rw [check, skipped]
    simp only [closed]
  | _, _, .object skipped named first others, _, enough => by
    obtain ⟨fuel, rfl, inside⟩ := fuelLeft skipped enough
    have inKey := Nat.le_trans (skipSpaceShorter _) inside
    have inFirst := Nat.le_trans (closesShorter (readsKeyCloses named)) inKey
    have inOthers := Nat.le_trans (closesShorter (checksValueCloses first)) inFirst
    rw [checkObjectStep skipped named, checkRuns first inFirst, okBind]
    exact checkMembersRun others inOthers
theorem checkItemsRun : {s rest : List Char} → ChecksItems s rest → ∀ {fuel : Nat},
    s.length ≤ fuel → checkItems fuel s = .ok rest
  | _, _, .close skipped, _, enough => by
    obtain ⟨fuel, rfl, _⟩ := fuelLeft skipped enough
    rw [checkItems, skipped]
    rfl
  | _, _, .next skipped first others, _, enough => by
    obtain ⟨fuel, rfl, inside⟩ := fuelLeft skipped enough
    have inOthers := Nat.le_trans (closesShorter (checksValueCloses first)) inside
    rw [checkItems, skipped]
    simp only [checkRuns first inside, okBind]
    exact checkItemsRun others inOthers
theorem checkMembersRun : {s rest : List Char} → ChecksMembers s rest → ∀ {fuel : Nat},
    s.length ≤ fuel → checkMembers fuel s = .ok rest
  | _, _, .close skipped, _, enough => by
    obtain ⟨fuel, rfl, _⟩ := fuelLeft skipped enough
    rw [checkMembers, skipped]
    rfl
  | _, _, .next skipped named first others, _, enough => by
    obtain ⟨fuel, rfl, inside⟩ := fuelLeft skipped enough
    have inFirst := Nat.le_trans (closesShorter (readsKeyCloses named)) inside
    have inOthers := Nat.le_trans (closesShorter (checksValueCloses first)) inFirst
    rw [checkMembersStep skipped named, checkRuns first inFirst, okBind]
    exact checkMembersRun others inOthers
end

end SvelteTransform.Json
