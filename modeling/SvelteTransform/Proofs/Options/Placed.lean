import SvelteTransform.Proofs.Json.Lookup
import SvelteTransform.Proofs.Options.Fieldwise

/-! Options that are given as an array. They come to what they would come to under their names, and
an array that is too long comes to nothing; only of several values that mean nothing another may be
reported, because an array is looked at in the order of declaration. -/
namespace SvelteTransform.Options
open Json.Reader (bindOk)

def named (items : List Json) : Json :=
  .object (Fields.ofList ((Name.declared.map Name.text).zip items))

theorem textInjective {a b : Name} (same : a.text = b.text) : a = b := by
  cases a <;> cases b <;> first | rfl | exact absurd same (by decide)

theorem namedGiven (items : List Json) (name : Name) :
    given (named items) name = items[name.position]? := by
  have distinct : (Fields.keys ((Name.declared.map Name.text).zip items)).Nodup :=
    (zippedNames _ items).sublist.nodup (by decide)
  refine Option.ext fun v => ?_
  rw [named, given, Fields.ofListMember distinct, ← zippedMember, List.zip_map_left, List.mem_map]
  constructor
  · rintro ⟨⟨other, w⟩, member, same⟩
    obtain ⟨sameText, rfl⟩ := Prod.mk.inj same
    exact textInjective sameText ▸ member
  · intro member
    exact ⟨(name, v), member, rfl⟩

theorem fieldsTell {o p : Options} (same : ∀ name, o.field name = p.field name) : o = p := by
  obtain ⟨⟩ := o
  obtain ⟨⟩ := p
  obtain rfl : _ = _ := same .preprocess
  obtain rfl : _ = _ := same .rootMode
  obtain rfl : _ = _ := same .compilerOptions
  obtain rfl : _ = _ := same .maxBuffer
  obtain rfl : _ = _ := same .showConsoleLog
  obtain rfl : _ = _ := same .debug
  obtain rfl : _ = _ := same .svelteVersion
  rfl

theorem zippedIncreasing (items : List Json) :
    (Name.declared.zip items).Pairwise fun a b => a.1.position < b.1.position := by
  have declared : Name.declared.Pairwise fun a b => a.position < b.position := by decide
  have increasing := declared.sublist (zippedNames Name.declared items).sublist
  rwa [List.pairwise_map] at increasing

section
variable {items : List Json}

theorem zippedSucceeds : (∃ o, setAll {} (Name.declared.zip items) = .ok o) ↔
    ∃ o, ofJson (named items) = .ok o := by
  have byName : (∃ o, ofJson (named items) = .ok o) ↔
      ∀ name v, given (named items) name = some v → ∃ x, Means name v x :=
    (objectByName _).succeeds
  rw [byName, setAllSucceeds]
  simp only [zippedMember, namedGiven]

theorem zippedFails {e : OptionsError} : setAll {} (Name.declared.zip items) = .error e ↔
    FirstWrong (fun name => items[name.position]?) (fun a b => a.position < b.position) e :=
  setAllFirst (fun _ _ => Nat.lt_asymm) (zippedIncreasing items) fun _ _ => zippedMember

theorem placedShort (short : items.length ≤ 7) :
    ofJson (.array items) = setAll {} (Name.declared.zip items) := by
  rw [ofJson]
  cases setAll {} (Name.declared.zip items) with
  | error e => rfl
  | ok o => exact if_neg (Nat.not_lt.mpr short)

theorem placedLong (long : 7 < items.length) : ofJson (.array items) =
    (setAll {} (Name.declared.zip items) >>= fun _ => .error (.tooLong items.length)) := by
  rw [ofJson]
  cases setAll {} (Name.declared.zip items) with
  | error e => rfl
  | ok o => exact if_pos long

theorem placedSame {o p : Options} (placed : ofJson (.array items) = .ok o)
    (byName : ofJson (named items) = .ok p) : o = p := by
  refine fieldsTell fun name => ?_
  have filled := ofJsonFields byName name
  rw [namedGiven] at filled
  exact filledOne (ofJsonFields placed name) filled

theorem placedAgrees (short : items.length ≤ 7) (o : Options) :
    ofJson (.array items) = .ok o ↔ ofJson (named items) = .ok o := by
  constructor
  · intro placed
    have set := placed
    rw [placedShort short] at set
    obtain ⟨p, byName⟩ := zippedSucceeds.mp ⟨o, set⟩
    rw [placedSame placed byName, byName]
  · intro byName
    obtain ⟨p, set⟩ := zippedSucceeds.mpr ⟨o, byName⟩
    rw [← placedShort short] at set
    rw [← placedSame set byName, set]

theorem placedFails {e : OptionsError} : ofJson (.array items) = .error e ↔
    FirstWrong (fun name => items[name.position]?) (fun a b => a.position < b.position) e ∨
      7 < items.length ∧ (∃ o, ofJson (named items) = .ok o) ∧ e = .tooLong items.length := by
  rw [← zippedFails, ← zippedSucceeds]
  rcases Nat.lt_or_ge 7 items.length with long | short
  · rw [placedLong long]
    cases setAll {} (Name.declared.zip items) with
    | error f =>
      change Except.error f = Except.error e ↔ _
      simp
    | ok o =>
      change Except.error (OptionsError.tooLong items.length) = Except.error e ↔ _
      simp [long, eq_comm]
  · rw [placedShort short]
    simp [Nat.not_lt.mpr short]

end

structure ByPlace (items : List Json) (placed named : Except OptionsError Options) : Prop where
  agrees : items.length ≤ 7 → ∀ o, placed = .ok o ↔ named = .ok o
  long : 7 < items.length → ∀ o, placed ≠ .ok o
  failsByPlace : ∀ e, placed = .error e ↔
    FirstWrong (fun name => items[name.position]?) (fun a b => a.position < b.position) e ∨
      7 < items.length ∧ (∃ o, named = .ok o) ∧ e = .tooLong items.length
  failsByName : ∀ e, named = .error e ↔
    FirstWrong (fun name => items[name.position]?) (fun a b => a.text < b.text) e

theorem placedByPlace (items : List Json) (config other : Json)
    (array : config.get? "transformerConfig" = some (.array items))
    (object : other.get? "transformerConfig" = some (named items)) :
    ByPlace items (ofHost config) (ofHost other) := by
  rw [hostGiven array nofun, hostGiven object nofun]
  refine ⟨placedAgrees, fun long o placed => ?_, fun e => placedFails, fun e => ?_⟩
  · rw [placedLong long] at placed
    obtain ⟨_, -, tooLong⟩ := bindOk.mp placed
    cases tooLong
  · have byName : ofJson (named items) = .error e ↔
      FirstWrong (given (named items)) (fun a b => a.text < b.text) e := objectFails
    rw [byName]
    simp only [FirstWrong, namedGiven]

theorem reportedInOrder :
    ofHost (.object [("transformerConfig", .array [.ofNat 5, .null, .string "x"])]) =
      .error (.noVariant "RawPreprocess") ∧
    ofHost (.object [("transformerConfig", named [.ofNat 5, .null, .string "x"])]) =
      .error (.mismatch (.string "x") "a map") := by
  have law := placedByPlace [.ofNat 5, .null, .string "x"]
    (.object [("transformerConfig", .array [.ofNat 5, .null, .string "x"])])
    (.object [("transformerConfig", named [.ofNat 5, .null, .string "x"])]) (by rfl) (by rfl)
  constructor
  · refine (law.failsByPlace _).mpr (.inl ⟨.preprocess, .ofNat 5, rfl, .preprocess _ nofun, ?_⟩)
    exact fun other w earlier => absurd earlier (Nat.not_lt_zero _)
  · refine (law.failsByName _).mpr
      ⟨.compilerOptions, .string "x", rfl, .compilerOptions _ nofun, ?_⟩
    exact fun other w earlier => absurd earlier (by cases other <;> decide)

end SvelteTransform.Options
