import SvelteTransform.Proofs.Json.Brackets.Scan
import SvelteTransform.Proofs.Json.Derivation

/-! Whatever a reader takes from a text closes what it opens. -/
namespace SvelteTransform.Json.Brackets
open Reader

theorem closesSpace (text : List Char) : Closes .outside text (skipSpace text) := by
  obtain ⟨blanks, parts, all⟩ := skipSpaceParts text
  have plain : Plain blanks := by
    intro c member
    simp only [isPlain, all c member, Bool.true_or]
  have closed := closesPlain plain (skipSpace text)
  rwa [← parts] at closed

theorem closesSkipped {text solid rest : List Char} (skipped : skipSpace text = solid)
    (closed : Closes .outside solid rest) : Closes .outside text rest :=
  (skipped ▸ closesSpace text).trans closed

def sideOf : Within → Side
  | .plain | .hex .. | .secondEscape _ => .inside
  | .escape | .secondHex _ => .escaped

theorem hexInside {c : Char} {d : Nat} (digit : hexDigit? c = some d) :
    step ⟨.inside, 0⟩ c = some ⟨.inside, 0⟩ := by
  apply stepInside <;> rintro rfl <;> contradiction

theorem stringFromCloses {care : Care} {within : Within} {read s rest : List Char} {text : String}
    (ok : stringFrom care within read s = .ok (text, rest)) : Closes (sideOf within) s rest := by
  fun_induction stringFrom care within read s
  case case3 =>
    cases ok
    exact closesStep rfl (closesNothing _)
  case case7 c s notQuote notBackslash printable ih =>
    exact closesStep (stepInside notQuote notBackslash 0) (ih ok)
  case case9 c s notU d simple ih =>
    exact closesStep (by simp [sideOf, step, isEscape, simple]) (ih ok)
  case case12 digit _ _ ih => exact closesStep (hexInside digit) (ih ok)
  case case13 digit _ _ _ _ ih | case14 digit _ _ _ _ ih =>
    exact closesStep (hexInside digit) (ih ok)
  case case4 ih | case8 ih | case16 ih | case18 ih => exact closesStep rfl (ih ok)
  all_goals simp only [refuseNotOk, refuseNextNotOk, refuseHexNotOk] at ok

theorem stringCloses {care : Care} {s rest : List Char} {text : String}
    (ok : Reader.string care s = .ok (text, rest)) : Closes .inside s rest := stringFromCloses ok

theorem wordParts {expected s rest : List Char} (ok : word expected s = .ok rest) :
    s = expected ++ rest := by
  induction expected generalizing s with
  | nil =>
    cases ok
    rfl
  | cons e more ih =>
    cases s with
    | nil => simp only [word, refuseNotOk] at ok
    | cons c s =>
      simp only [word] at ok
      split at ok
      · rename_i same
        rw [same, ih ok, List.cons_append]
      · simp only [refuseNextNotOk] at ok

theorem wordCloses {c : Char} {expected s rest : List Char}
    (plain : Plain (c :: expected)) (ok : word expected s = .ok rest) :
    Closes .outside (c :: s) rest := by
  rw [wordParts ok, ← List.cons_append]
  exact closesPlain plain rest

theorem digitsClose (s : List Char) : Closes .outside s (s.dropWhile isDigit) := by
  have plain : Plain (s.takeWhile isDigit) := by
    intro c member
    simp [isPlain, List.all_eq_true.mp List.all_takeWhile c member]
  have closed := closesPlain plain (s.dropWhile isDigit)
  rwa [List.takeWhile_append_dropWhile] at closed

theorem exponentPartCloses {care : Care} {s rest : List Char} {e : Bool × List Char}
    (ok : exponentPart care s = .ok (e, rest)) : Closes .outside s rest := by
  unfold exponentPart at ok
  split at ok
  rename_i negative digits signed
  have sign : Closes .outside s digits := by
    split at signed <;> cases signed
    · exact closesStep (stepPlain (by rfl) 0) (closesNothing _)
    · exact closesStep (stepPlain (by rfl) 0) (closesNothing _)
    · exact closesNothing _
  split at ok
  · simp only [refuseNotOk] at ok
  · split at ok
    · cases ok
      exact sign.trans (digitsClose _)
    · simp only [refuseNextNotOk] at ok

theorem afterFractionCloses {care : Care} {l literal : Literal} {s rest : List Char}
    (ok : afterFraction care l s = .ok (literal, rest)) : Closes .outside s rest := by
  unfold afterFraction at ok
  split at ok
  · split at ok
    · rename_i c s letter
      obtain ⟨⟨e, t⟩, read, same⟩ := bindOk.mp ok
      cases same
      have plain : isPlain c = true := by rcases letter with rfl | rfl <;> rfl
      exact closesStep (stepPlain plain 0) (exponentPartCloses read)
    · cases ok
      exact closesNothing _
  · cases ok
    exact closesNothing _

theorem afterWholeCloses {care : Care} {l literal : Literal} {s rest : List Char}
    (ok : afterWhole care l s = .ok (literal, rest)) : Closes .outside s rest := by
  unfold afterWhole at ok
  split at ok
  · split at ok
    · split at ok
      · simp only [refuseNotOk] at ok
      · simp only [refuseNextNotOk] at ok
    · exact closesStep (stepPlain (by rfl) 0) ((digitsClose _).trans (afterFractionCloses ok))
  · exact afterFractionCloses ok

theorem unsignedCloses {care : Care} {negative : Bool} {literal : Literal} {s rest : List Char}
    (ok : unsigned care negative s = .ok (literal, rest)) : Closes .outside s rest := by
  unfold unsigned at ok
  split at ok
  · simp only [refuseNotOk] at ok
  · split at ok
    · rename_i c s zero
      have plain : isPlain c = true := by rw [zero]; rfl
      refine closesStep (stepPlain plain 0) ?_
      split at ok
      · split at ok
        · simp only [refuseNextNotOk] at ok
        · exact afterWholeCloses ok
      · exact afterWholeCloses ok
    · split at ok
      · exact (digitsClose _).trans (afterWholeCloses ok)
      · simp only [refuseNextNotOk] at ok

theorem numberCloses {c : Char} {s rest : List Char} {n : Number}
    (ok : Reader.number c s = .ok (n, rest)) : Closes .outside (c :: s) rest := by
  simp only [Reader.number] at ok
  split at ok
  · rename_i minus
    obtain ⟨⟨literal, t⟩, read, value⟩ := bindOk.mp ok
    split at value <;> cases value
    rw [minus]
    exact closesStep (stepPlain (by rfl) 0) (unsignedCloses read)
  · obtain ⟨⟨literal, t⟩, read, value⟩ := bindOk.mp ok
    split at value <;> cases value
    exact unsignedCloses read

theorem scalarCloses {c : Char} {s rest : List Char} {v : Json}
    (ok : scalar c s = .ok (v, rest)) : Closes .outside (c :: s) rest := by
  unfold scalar at ok
  split at ok
  · obtain ⟨t, read, same⟩ := bindOk.mp ok
    cases same
    exact wordCloses (by decide) read
  · obtain ⟨t, read, same⟩ := bindOk.mp ok
    cases same
    exact wordCloses (by decide) read
  · obtain ⟨t, read, same⟩ := bindOk.mp ok
    cases same
    exact wordCloses (by decide) read
  · obtain ⟨⟨text, t⟩, read, same⟩ := bindOk.mp ok
    cases same
    exact closesQuote (stringCloses read)
  · split at ok
    · obtain ⟨⟨n, t⟩, read, same⟩ := bindOk.mp ok
      cases same
      exact numberCloses read
    · simp only [refuseNextNotOk] at ok

theorem checkScalarCloses {c : Char} {s rest : List Char}
    (ok : checkScalar c s = .ok rest) : Closes .outside (c :: s) rest := by
  unfold checkScalar at ok
  split at ok
  · exact wordCloses (by decide) ok
  · exact wordCloses (by decide) ok
  · exact wordCloses (by decide) ok
  · obtain ⟨⟨text, t⟩, read, same⟩ := bindOk.mp ok
    cases same
    exact closesQuote (stringCloses read)
  · obtain ⟨⟨literal, t⟩, read, same⟩ := bindOk.mp ok
    cases same
    exact closesStep (stepPlain (by rfl) 0) (unsignedCloses read)
  · split at ok
    · obtain ⟨⟨literal, t⟩, read, same⟩ := bindOk.mp ok
      cases same
      exact unsignedCloses read
    · simp only [refuseNextNotOk] at ok

theorem colonCloses {s rest : List Char} (ok : colon s = .ok rest) : Closes .outside s rest :=
  closesSkipped (colonOk ok) (closesStep (stepPlain (by rfl) 0) (closesNothing _))

theorem keyCloses {care : Care} {atEnd atBrace : Cause} {s t rest : List Char} {key : String}
    (opened : keyOpening atEnd atBrace s = .ok t) (read : Reader.string care t = .ok (key, rest)) :
    Closes .outside s rest :=
  closesSkipped (keyOpeningOk opened) (closesQuote (stringCloses read))

theorem readsKeyCloses {care : Care} {s rest : List Char} {key : String}
    (named : ReadsKey care s key rest) : Closes .outside s rest := by
  obtain ⟨t, u, opened, read, separated⟩ := named
  exact closesSkipped opened ((closesQuote (stringCloses read)).trans
    (closesSkipped separated (closesStep (stepPlain (by rfl) 0) (closesNothing _))))

mutual
theorem readsValueCloses : {room : Nat} → {s : List Char} → {v : Json} → {rest : List Char} →
    ReadsValue room s v rest → Closes .outside s rest
  | _, _, _, _, .scalar skipped read => closesSkipped skipped (scalarCloses read)
  | _, _, _, _, .noItems skipped closed =>
    closesSkipped skipped (closesAround ']' rfl rfl (closesSkipped closed (closesNothing _)))
  | _, _, _, _, .array skipped first others =>
    closesSkipped skipped (closesAround ']' rfl rfl ((closesSpace _).trans
      ((readsValueCloses first).trans (readsItemsClose others))))
  | _, _, _, _, .noMembers skipped closed =>
    closesSkipped skipped (closesAround '\x7d' rfl rfl (closesSkipped closed (closesNothing _)))
  | _, _, _, _, .object skipped named first others =>
    closesSkipped skipped (closesAround '\x7d' rfl rfl ((closesSpace _).trans
      ((readsKeyCloses named).trans ((readsValueCloses first).trans (readsMembersClose others)))))
theorem readsItemsClose : {room : Nat} → {s : List Char} → {vs : List Json} →
    {rest : List Char} → ReadsItems room s vs rest → Closes .outside s (']' :: rest)
  | _, _, _, _, .close skipped => closesSkipped skipped (closesNothing _)
  | _, _, _, _, .next skipped first others =>
    closesSkipped skipped (closesStep (stepPlain (by rfl) 0) ((closesSpace _).trans
      ((readsValueCloses first).trans (readsItemsClose others))))
theorem readsMembersClose : {room : Nat} → {s : List Char} → {ms : List (String × Json)} →
    {rest : List Char} → ReadsMembers room s ms rest → Closes .outside s ('\x7d' :: rest)
  | _, _, _, _, .close skipped => closesSkipped skipped (closesNothing _)
  | _, _, _, _, .next skipped named first others =>
    closesSkipped skipped (closesStep (stepPlain (by rfl) 0) ((readsKeyCloses named).trans
      ((readsValueCloses first).trans (readsMembersClose others))))
end

mutual
theorem checksValueCloses : {s rest : List Char} → ChecksValue s rest → Closes .outside s rest
  | _, _, .scalar skipped read => closesSkipped skipped (checkScalarCloses read)
  | _, _, .noItems skipped closed =>
    closesSkipped skipped (closesAround ']' rfl rfl (closesSkipped closed (closesNothing _)))
  | _, _, .array skipped first others =>
    closesSkipped skipped (closesAround ']' rfl rfl ((closesSpace _).trans
      ((checksValueCloses first).trans (checksItemsClose others))))
  | _, _, .noMembers skipped closed =>
    closesSkipped skipped (closesAround '\x7d' rfl rfl (closesSkipped closed (closesNothing _)))
  | _, _, .object skipped named first others =>
    closesSkipped skipped (closesAround '\x7d' rfl rfl ((closesSpace _).trans
      ((readsKeyCloses named).trans ((checksValueCloses first).trans (checksMembersClose others)))))
theorem checksItemsClose : {s rest : List Char} → ChecksItems s rest →
    Closes .outside s (']' :: rest)
  | _, _, .close skipped => closesSkipped skipped (closesNothing _)
  | _, _, .next skipped first others =>
    closesSkipped skipped (closesStep (stepPlain (by rfl) 0)
      ((checksValueCloses first).trans (checksItemsClose others)))
theorem checksMembersClose : {s rest : List Char} → ChecksMembers s rest →
    Closes .outside s ('\x7d' :: rest)
  | _, _, .close skipped => closesSkipped skipped (closesNothing _)
  | _, _, .next skipped named first others =>
    closesSkipped skipped (closesStep (stepPlain (by rfl) 0) ((readsKeyCloses named).trans
      ((checksValueCloses first).trans (checksMembersClose others))))
end

def FieldCloses (field : Field) : Prop :=
  ∀ {fuel s v rest}, field.value fuel s = .ok (v, rest) → Closes .outside s rest

theorem stringValueCloses {s rest : List Char} {text : String}
    (ok : stringValue s = .ok (text, rest)) : Closes .outside s rest := by
  unfold stringValue at ok
  split at ok
  · exact (refuseNotOk.mp ok).elim
  · exact (refuseNotOk.mp ok).elim
  · exact (refuseNotOk.mp ok).elim
  · rename_i skipped
    obtain ⟨⟨v, t⟩, read, ok⟩ := bindOk.mp ok
    split at ok
    · rename_i same
      cases same
      cases ok
      exact closesSkipped skipped (scalarCloses read)
    · exact (refuseNotOk.mp ok).elim

theorem stringFieldCloses (name : String) : FieldCloses (stringField name) := by
  intro fuel s v rest ok
  obtain ⟨⟨text, t⟩, read, ok⟩ := bindOk.mp ok
  cases ok
  exact stringValueCloses read

theorem anyFieldCloses (name : String) (room : Nat) : FieldCloses (anyField name room) :=
  fun ok => readsValueCloses (valueReads ok)

theorem refuseRepeatedNotOk {α : Type} {name : String} {s : List Char} {a : α} :
    refuseRepeated name s = .ok a ↔ False := by
  unfold refuseRepeated
  split <;> exact refuseNotOk

section
variable {known : List Field} (close : ∀ field ∈ known, FieldCloses field)
include close

theorem memberValueCloses {seen found : List (String × Json)} {fuel : Nat} {name : String}
    {s rest : List Char} (ok : memberValue known seen fuel name s = .ok (found, rest)) :
    Closes .outside s rest := by
  unfold memberValue at ok
  split at ok
  · rename_i field isKnown
    split at ok
    · exact (refuseRepeatedNotOk.mp ok).elim
    · obtain ⟨t, separated, ok⟩ := bindOk.mp ok
      obtain ⟨⟨v, u⟩, read, ok⟩ := bindOk.mp ok
      cases ok
      exact (colonCloses separated).trans (close field (List.mem_of_find?_eq_some isKnown) read)
  · obtain ⟨t, separated, ok⟩ := bindOk.mp ok
    obtain ⟨u, read, ok⟩ := bindOk.mp ok
    cases ok
    exact (colonCloses separated).trans (checksValueCloses (valueChecks read))

theorem moreFieldsClose {fuel : Nat} {seen found : List (String × Json)} {s rest : List Char}
    (ok : moreFields known fuel seen s = .ok (found, rest)) :
    Closes .outside s ('\x7d' :: rest) := by
  induction fuel generalizing seen s with
  | zero => exact (refuseNotOk.mp ok).elim
  | succ fuel ih =>
    rw [moreFields] at ok
    split at ok
    · exact (refuseNotOk.mp ok).elim
    · rename_i skipped
      cases ok
      exact closesSkipped skipped (closesNothing _)
    · rename_i t skipped
      obtain ⟨u, opened, ok⟩ := bindOk.mp ok
      obtain ⟨⟨name, w⟩, named, ok⟩ := bindOk.mp ok
      obtain ⟨⟨seen', x⟩, read, ok⟩ := bindOk.mp ok
      exact closesSkipped skipped (closesStep (stepPlain (by rfl) 0)
        ((keyCloses opened named).trans ((memberValueCloses close read).trans (ih ok))))
    · exact (refuseNextNotOk.mp ok).elim

theorem fieldsClose {fuel : Nat} {found : List (String × Json)} {s rest : List Char}
    (ok : fields known fuel s = .ok (found, rest)) : Closes .outside s ('\x7d' :: rest) := by
  unfold fields at ok
  split at ok
  · exact (refuseNotOk.mp ok).elim
  · rename_i skipped
    cases ok
    exact closesSkipped skipped (closesNothing _)
  · obtain ⟨t, opened, ok⟩ := bindOk.mp ok
    obtain ⟨⟨name, u⟩, named, ok⟩ := bindOk.mp ok
    obtain ⟨⟨seen, w⟩, read, ok⟩ := bindOk.mp ok
    exact (closesSpace _).trans ((keyCloses opened named).trans
      ((memberValueCloses close read).trans (moreFieldsClose close ok)))

end

theorem closeListCloses {s rest : List Char} (ok : closeList s = .ok rest) :
    Closes .outside s (']' :: rest) := by
  unfold closeList at ok
  split at ok
  · exact (refuseNotOk.mp ok).elim
  · rename_i skipped
    cases ok
    exact closesSkipped skipped (closesNothing _)
  · split at ok <;> exact (refuseNextNotOk.mp ok).elim
  · exact (refuseNextNotOk.mp ok).elim

end SvelteTransform.Json.Brackets
