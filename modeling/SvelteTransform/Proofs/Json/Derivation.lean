import SvelteTransform.Proofs.Json.Steps

/-! How a value is read, without fuel and without the ways to fail. Whatever holds of everything
that is read is proved over these derivations. -/
namespace SvelteTransform.Json
open Reader

def ReadsKey (care : Care) (s : List Char) (key : String) (rest : List Char) : Prop :=
  ∃ t u, skipSpace s = '"' :: t ∧ Reader.string care t = .ok (key, u) ∧ skipSpace u = ':' :: rest

mutual
/-- A value with at most `room` levels is read, and `rest` is left. -/
inductive ReadsValue : (room : Nat) → List Char → Json → (rest : List Char) → Prop where
  | scalar {room c s t v rest} (skipped : skipSpace s = c :: t)
      (read : Reader.scalar c t = .ok (v, rest)) : ReadsValue room s v rest
  | noItems {room s t rest} (skipped : skipSpace s = '[' :: t)
      (closed : skipSpace t = ']' :: rest) : ReadsValue (room + 1) s (.array []) rest
  | array {room s t v u vs rest} (skipped : skipSpace s = '[' :: t)
      (first : ReadsValue room (skipSpace t) v u) (others : ReadsItems room u vs rest) :
      ReadsValue (room + 1) s (.array (v :: vs)) rest
  | noMembers {room s t rest} (skipped : skipSpace s = '\x7b' :: t)
      (closed : skipSpace t = '\x7d' :: rest) : ReadsValue (room + 1) s (.object []) rest
  | object {room s t key u v w ms rest} (skipped : skipSpace s = '\x7b' :: t)
      (named : ReadsKey .used (skipSpace t) key u) (first : ReadsValue room u v w)
      (others : ReadsMembers room w ms rest) :
      ReadsValue (room + 1) s (.object (Fields.ofList ((key, v) :: ms))) rest
inductive ReadsItems : (room : Nat) → List Char → List Json → (rest : List Char) → Prop where
  | close {room s rest} (skipped : skipSpace s = ']' :: rest) : ReadsItems room s [] rest
  | next {room s t v u vs rest} (skipped : skipSpace s = ',' :: t)
      (first : ReadsValue room (skipSpace t) v u) (others : ReadsItems room u vs rest) :
      ReadsItems room s (v :: vs) rest
inductive ReadsMembers :
    (room : Nat) → List Char → List (String × Json) → (rest : List Char) → Prop where
  | close {room s rest} (skipped : skipSpace s = '\x7d' :: rest) : ReadsMembers room s [] rest
  | next {room s t key u v w ms rest} (skipped : skipSpace s = ',' :: t)
      (named : ReadsKey .used t key u) (first : ReadsValue room u v w)
      (others : ReadsMembers room w ms rest) : ReadsMembers room s ((key, v) :: ms) rest
end

mutual
inductive ChecksValue : List Char → (rest : List Char) → Prop where
  | scalar {c s t rest} (skipped : skipSpace s = c :: t) (read : checkScalar c t = .ok rest) :
      ChecksValue s rest
  | noItems {s t rest} (skipped : skipSpace s = '[' :: t) (closed : skipSpace t = ']' :: rest) :
      ChecksValue s rest
  | array {s t u rest} (skipped : skipSpace s = '[' :: t) (first : ChecksValue (skipSpace t) u)
      (others : ChecksItems u rest) : ChecksValue s rest
  | noMembers {s t rest} (skipped : skipSpace s = '\x7b' :: t)
      (closed : skipSpace t = '\x7d' :: rest) : ChecksValue s rest
  | object {s t key u v rest} (skipped : skipSpace s = '\x7b' :: t)
      (named : ReadsKey .discarded (skipSpace t) key u) (first : ChecksValue u v)
      (others : ChecksMembers v rest) : ChecksValue s rest
inductive ChecksItems : List Char → (rest : List Char) → Prop where
  | close {s rest} (skipped : skipSpace s = ']' :: rest) : ChecksItems s rest
  | next {s t u rest} (skipped : skipSpace s = ',' :: t) (first : ChecksValue t u)
      (others : ChecksItems u rest) : ChecksItems s rest
inductive ChecksMembers : List Char → (rest : List Char) → Prop where
  | close {s rest} (skipped : skipSpace s = '\x7d' :: rest) : ChecksMembers s rest
  | next {s t key u v rest} (skipped : skipSpace s = ',' :: t)
      (named : ReadsKey .discarded t key u) (first : ChecksValue u v)
      (others : ChecksMembers v rest) : ChecksMembers s rest
end

theorem colonOk {s rest : List Char} (ok : colon s = .ok rest) : skipSpace s = ':' :: rest := by
  unfold colon at ok
  split at ok
  · exact (refuseNotOk.mp ok).elim
  · rename_i skipped
    split at ok
    · rename_i isColon
      cases ok
      rw [skipped, isColon]
    · exact (refuseNextNotOk.mp ok).elim

theorem keyOpeningOk {atEnd atBrace : Cause} {s rest : List Char}
    (ok : keyOpening atEnd atBrace s = .ok rest) : skipSpace s = '"' :: rest := by
  unfold keyOpening at ok
  split at ok
  · exact (refuseNotOk.mp ok).elim
  · rename_i skipped
    split at ok
    · rename_i isQuote
      cases ok
      rw [skipped, isQuote]
    · exact (refuseNextNotOk.mp ok).elim

structure Derives (fuel : Nat) : Prop where
  value : ∀ {room s v rest}, Reader.value fuel room s = .ok (v, rest) → ReadsValue room s v rest
  items : ∀ {room s vs rest}, moreItems fuel room s = .ok (vs, rest) → ReadsItems room s vs rest
  members : ∀ {room s ms rest}, moreMembers fuel room s = .ok (ms, rest) →
    ReadsMembers room s ms rest

theorem Derives.valueNext {fuel room : Nat} {s rest : List Char} {v : Json} (ih : Derives fuel)
    (ok : Reader.value (fuel + 1) room s = .ok (v, rest)) : ReadsValue room s v rest := by
  rw [Reader.value] at ok
  split at ok
  · exact (refuseNotOk.mp ok).elim
  · rename_i skipped
    split at ok
    · exact (refuseNextNotOk.mp ok).elim
    · split at ok
      · exact (refuseNotOk.mp ok).elim
      · rename_i closed
        cases ok
        exact .noItems skipped closed
      · obtain ⟨⟨item, t⟩, read, ok⟩ := bindOk.mp ok
        obtain ⟨⟨items, u⟩, readMore, ok⟩ := bindOk.mp ok
        cases ok
        exact .array skipped (ih.value read) (ih.items readMore)
  · rename_i skipped
    split at ok
    · exact (refuseNextNotOk.mp ok).elim
    · split at ok
      · exact (refuseNotOk.mp ok).elim
      · rename_i closed
        cases ok
        exact .noMembers skipped closed
      · obtain ⟨t, opened, ok⟩ := bindOk.mp ok
        obtain ⟨⟨key, u⟩, named, ok⟩ := bindOk.mp ok
        obtain ⟨w, separated, ok⟩ := bindOk.mp ok
        obtain ⟨⟨v, x⟩, read, ok⟩ := bindOk.mp ok
        obtain ⟨⟨members, y⟩, readMore, ok⟩ := bindOk.mp ok
        cases ok
        exact .object skipped ⟨t, u, keyOpeningOk opened, named, colonOk separated⟩
          (ih.value read) (ih.members readMore)
  · rename_i skipped
    exact .scalar skipped ok

theorem Derives.itemsNext {fuel room : Nat} {s rest : List Char} {vs : List Json}
    (ih : Derives fuel) (ok : moreItems (fuel + 1) room s = .ok (vs, rest)) :
    ReadsItems room s vs rest := by
  rw [moreItems] at ok
  split at ok
  · exact (refuseNotOk.mp ok).elim
  · rename_i skipped
    cases ok
    exact .close skipped
  · rename_i skipped
    split at ok
    · exact (refuseNotOk.mp ok).elim
    · exact (refuseNextNotOk.mp ok).elim
    · obtain ⟨⟨item, u⟩, read, ok⟩ := bindOk.mp ok
      obtain ⟨⟨items, w⟩, readMore, ok⟩ := bindOk.mp ok
      cases ok
      exact .next skipped (ih.value read) (ih.items readMore)
  · exact (refuseNextNotOk.mp ok).elim

theorem Derives.membersNext {fuel room : Nat} {s rest : List Char} {ms : List (String × Json)}
    (ih : Derives fuel) (ok : moreMembers (fuel + 1) room s = .ok (ms, rest)) :
    ReadsMembers room s ms rest := by
  rw [moreMembers] at ok
  split at ok
  · exact (refuseNotOk.mp ok).elim
  · rename_i skipped
    cases ok
    exact .close skipped
  · rename_i skipped
    obtain ⟨u, opened, ok⟩ := bindOk.mp ok
    obtain ⟨⟨key, w⟩, named, ok⟩ := bindOk.mp ok
    obtain ⟨x, separated, ok⟩ := bindOk.mp ok
    obtain ⟨⟨v, y⟩, read, ok⟩ := bindOk.mp ok
    obtain ⟨⟨members, z⟩, readMore, ok⟩ := bindOk.mp ok
    cases ok
    exact .next skipped ⟨u, w, keyOpeningOk opened, named, colonOk separated⟩ (ih.value read)
      (ih.members readMore)
  · exact (refuseNextNotOk.mp ok).elim

theorem derives (fuel : Nat) : Derives fuel := by
  induction fuel with
  | zero => constructor <;> intro _ _ _ _ ok <;> exact (refuseNotOk.mp ok).elim
  | succ fuel ih => exact ⟨ih.valueNext, ih.itemsNext, ih.membersNext⟩

theorem valueReads {fuel room : Nat} {s rest : List Char} {v : Json}
    (ok : Reader.value fuel room s = .ok (v, rest)) : ReadsValue room s v rest :=
  (derives fuel).value ok

structure DerivesChecks (fuel : Nat) : Prop where
  value : ∀ {s rest}, check fuel s = .ok rest → ChecksValue s rest
  items : ∀ {s rest}, checkItems fuel s = .ok rest → ChecksItems s rest
  members : ∀ {s rest}, checkMembers fuel s = .ok rest → ChecksMembers s rest

theorem DerivesChecks.valueNext {fuel : Nat} {s rest : List Char} (ih : DerivesChecks fuel)
    (ok : check (fuel + 1) s = .ok rest) : ChecksValue s rest := by
  rw [check] at ok
  split at ok
  · exact (refuseNotOk.mp ok).elim
  · rename_i skipped
    split at ok
    · exact (refuseNotOk.mp ok).elim
    · rename_i closed
      cases ok
      exact .noItems skipped closed
    · obtain ⟨u, read, ok⟩ := bindOk.mp ok
      exact .array skipped (ih.value read) (ih.items ok)
  · rename_i skipped
    split at ok
    · exact (refuseNotOk.mp ok).elim
    · rename_i closed
      cases ok
      exact .noMembers skipped closed
    · obtain ⟨u, opened, ok⟩ := bindOk.mp ok
      obtain ⟨⟨key, w⟩, named, ok⟩ := bindOk.mp ok
      obtain ⟨x, separated, ok⟩ := bindOk.mp ok
      obtain ⟨y, read, ok⟩ := bindOk.mp ok
      exact .object skipped ⟨u, w, keyOpeningOk opened, named, colonOk separated⟩ (ih.value read)
        (ih.members ok)
  · rename_i skipped
    exact .scalar skipped ok

theorem DerivesChecks.itemsNext {fuel : Nat} {s rest : List Char} (ih : DerivesChecks fuel)
    (ok : checkItems (fuel + 1) s = .ok rest) : ChecksItems s rest := by
  rw [checkItems] at ok
  split at ok
  · exact (refuseNotOk.mp ok).elim
  · rename_i skipped
    cases ok
    exact .close skipped
  · rename_i skipped
    obtain ⟨u, read, ok⟩ := bindOk.mp ok
    exact .next skipped (ih.value read) (ih.items ok)
  · exact (refuseNextNotOk.mp ok).elim

theorem DerivesChecks.membersNext {fuel : Nat} {s rest : List Char} (ih : DerivesChecks fuel)
    (ok : checkMembers (fuel + 1) s = .ok rest) : ChecksMembers s rest := by
  rw [checkMembers] at ok
  split at ok
  · exact (refuseNotOk.mp ok).elim
  · rename_i skipped
    cases ok
    exact .close skipped
  · rename_i skipped
    obtain ⟨u, opened, ok⟩ := bindOk.mp ok
    obtain ⟨⟨key, w⟩, named, ok⟩ := bindOk.mp ok
    obtain ⟨x, separated, ok⟩ := bindOk.mp ok
    obtain ⟨y, read, ok⟩ := bindOk.mp ok
    exact .next skipped ⟨u, w, keyOpeningOk opened, named, colonOk separated⟩ (ih.value read)
      (ih.members ok)
  · exact (refuseNextNotOk.mp ok).elim

theorem derivesChecks (fuel : Nat) : DerivesChecks fuel := by
  induction fuel with
  | zero => constructor <;> intro _ _ ok <;> exact (refuseNotOk.mp ok).elim
  | succ fuel ih => exact ⟨ih.valueNext, ih.itemsNext, ih.membersNext⟩

theorem valueChecks {fuel : Nat} {s rest : List Char} (ok : check fuel s = .ok rest) :
    ChecksValue s rest := (derivesChecks fuel).value ok

end SvelteTransform.Json
