import SvelteTransform.Proofs.Compile.Options

/-! Assembled options, key by key. What the user gives wins, null included, and what is derived for
modules is derived from the options after that. -/
namespace SvelteTransform.Compile.Options

inductive Falsy : Json → Prop where
  | null : Falsy .null
  | no : Falsy (.boolean false)
  | zero : Falsy (.ofNat 0)
  | realZero (x : Float) (finite : x.isFinite = true) (zero : (x == 0.0) = true) :
      Falsy (.number (.real x finite))
  | empty : Falsy (.string "")

theorem truthyNotFalsy {v : Json} : v.isTruthy = true ↔ ¬ Falsy v := by
  constructor
  · intro truthy falsy
    cases falsy with
    | null | no | zero | empty => cases truthy
    | realZero x finite zero =>
      rw [Json.isTruthy, bne, zero] at truthy
      cases truthy
  · intro notFalsy
    cases v with
    | null => exact absurd .null notFalsy
    | boolean b =>
      cases b with
      | false => exact absurd .no notFalsy
      | true => rfl
    | number n =>
      cases n with
      | natural n fits =>
        rw [Json.isTruthy, bne_iff_ne]
        rintro rfl
        exact notFalsy .zero
      | negative => rfl
      | real x finite =>
        rw [Json.isTruthy, bne, Bool.not_eq_true']
        exact Bool.eq_false_iff.mpr fun zero => notFalsy (.realZero x finite zero)
    | string s =>
      rw [Json.isTruthy, bne_iff_ne]
      rintro rfl
      exact notFalsy .empty
    | array => rfl
    | object => rfl

section
variable (file : Path) (legacy : Bool) (format : ModuleFormat) (sourcemap : Option Json)

inductive Computed : String → Json → Prop where
  | lastComponent (name : Path.Segment) (last : file.fileName = some name) :
      Computed "filename" (.string (String.ofList name))
  | wholePath (nameless : file.fileName = none) : Computed "filename" (.string file.toString)
  | oldCss (old : legacy = true) : Computed "css" (.boolean true)
  | css (modern : legacy = false) : Computed "css" (.string "injected")
  | accessors : Computed "accessors" (.boolean true)
  | dev : Computed "dev" (.boolean true)
  | sourcemap (map : Json) (given : sourcemap = some map) : Computed "sourcemap" map
  | format (old : legacy = true) : Computed "format" (.string format.name)

/-- What the user gives wins, and the rest is computed. -/
structure UserWins (overrides : OrderedFields Json) (o : Options) : Prop where
  value : ∀ key v, o.get? key = some v ↔ overrides.fields.get? key = some v ∨
    overrides.fields.get? key = none ∧ Computed file legacy format sourcemap key v
  keys : ∀ key, key ∈ o.fields.keys ↔ key ∈ overrides.fields.keys ∨
    key ∈ ["filename", "css", "accessors", "dev"] ∨ key = "sourcemap" ∧ sourcemap ≠ none ∨
    key = "format" ∧ legacy = true
  filename : ∀ name,
    o.forModule.filename = some name ↔ o.get? "filename" = some (.string name)
  nameless : o.forModule.filename = none ↔ ∀ name, o.get? "filename" ≠ some (.string name)
  dev : o.forModule.dev = true ↔ ∃ v, o.get? "dev" = some v ∧ ¬ Falsy v
  generate : o.forModule.generate = .server ↔ ∃ v, o.get? "ssr" = some v ∧ ¬ Falsy v
  again : assemble file legacy format sourcemap o.fields = o

end

section
variable {file : Path} {legacy : Bool} {format : ModuleFormat} {sourcemap : Option Json}

theorem baseComputed {key : String} {v : Json} :
    (base file legacy format sourcemap).get? key = some v ↔
      Computed file legacy format sourcemap key v := by
  rw [base, Fields.ofListMember]
  · constructor
    · intro member
      rw [List.mem_append, List.mem_append, Option.mem_toList,
        Option.map_eq_some_iff] at member
      rcases member with (always | ⟨map, given, same⟩) | ifOld
      · simp only [List.mem_cons, Prod.mk.injEq, List.not_mem_nil, or_false] at always
        rcases always with ⟨rfl, rfl⟩ | ⟨rfl, rfl⟩ | ⟨rfl, rfl⟩ | ⟨rfl, rfl⟩
        · rw [Path.lastName]
          cases last : file.fileName with
          | some name => exact .lastComponent name last
          | none => exact .wholePath last
        · split
          · rename_i old
            exact .oldCss old
          · rename_i modern
            exact .css (Bool.eq_false_iff.mpr modern)
        · exact .accessors
        · exact .dev
      · cases same
        exact .sourcemap _ given
      · split at ifOld
        · rename_i old
          cases List.mem_singleton.mp ifOld
          exact .format old
        · cases ifOld
    · intro computed
      rw [List.mem_append, List.mem_append, Option.mem_toList,
        Option.map_eq_some_iff]
      cases computed with
      | lastComponent name last => simp [Path.lastName, last]
      | wholePath nameless => simp [Path.lastName, nameless, Path.toString]
      | oldCss old => simp [old]
      | css modern => simp [modern]
      | accessors => simp
      | dev => simp
      | sourcemap map given => simp [given]
      | format old => simp [old]
  · cases sourcemap <;> cases legacy <;> simp [Fields.keys]

variable (file format) in
theorem computedKey {key : String} :
    (∃ v, Computed file legacy format sourcemap key v) ↔
      key ∈ ["filename", "css", "accessors", "dev"] ∨ key = "sourcemap" ∧ sourcemap ≠ none ∨
      key = "format" ∧ legacy = true := by
  constructor
  · rintro ⟨v, computed⟩
    cases computed with
    | sourcemap map given => exact .inr (.inl ⟨rfl, by rw [given]; exact nofun⟩)
    | format old => exact .inr (.inr ⟨rfl, old⟩)
    | _ => exact .inl (by decide)
  · rintro (always | ⟨rfl, given⟩ | ⟨rfl, old⟩)
    · simp only [List.mem_cons, List.not_mem_nil, or_false] at always
      rcases always with rfl | rfl | rfl | rfl
      · cases last : file.fileName with
        | some name => exact ⟨_, .lastComponent name last⟩
        | none => exact ⟨_, .wholePath last⟩
      · cases legacy with
        | true => exact ⟨_, .oldCss rfl⟩
        | false => exact ⟨_, .css rfl⟩
      · exact ⟨_, .accessors⟩
      · exact ⟨_, .dev⟩
    · obtain ⟨map, given⟩ := Option.ne_none_iff_exists'.mp given
      exact ⟨map, .sourcemap map given⟩
    · exact ⟨_, .format old⟩

theorem moduleFilename (o : Options) (name : String) :
    o.forModule.filename = some name ↔ o.get? "filename" = some (.string name) := by
  rw [forModule, filename]
  split
  · rename_i given found
    rw [found, Option.some.injEq, Option.some.injEq, Json.string.injEq]
  · rename_i other
    constructor
    · intro nameless
      cases nameless
    · exact fun found => absurd found (other name)

theorem moduleNameless (o : Options) :
    o.forModule.filename = none ↔ ∀ name, o.get? "filename" ≠ some (.string name) := by
  simp only [Option.eq_none_iff_forall_ne_some, ne_eq, moduleFilename]

theorem holdsTruthy (o : Options) (key : String) :
    o.holds key = true ↔ ∃ v, o.get? key = some v ∧ ¬ Falsy v := by
  simp only [holds, Option.any_eq_true, truthyNotFalsy]

theorem moduleGenerate (o : Options) :
    o.forModule.generate = .server ↔ ∃ v, o.get? "ssr" = some v ∧ ¬ Falsy v := by
  rw [← holdsTruthy, forModule, ssr]
  cases o.holds "ssr" with
  | true => exact ⟨fun _ => rfl, fun _ => rfl⟩
  | false =>
    constructor
    · intro isServer
      cases isServer
    · intro truthy
      cases truthy

variable (overrides : OrderedFields Json)

variable (file legacy format sourcemap) in
theorem assembledGet (key : String) :
    (assemble file legacy format sourcemap overrides.fields).get? key =
      (overrides.fields.get? key).or ((base file legacy format sourcemap).get? key) := by
  rw [assembledLookup, Fields.orderedReversed overrides.ordered]

theorem assembledValue {key : String} {v : Json} :
    (assemble file legacy format sourcemap overrides.fields).get? key = some v ↔
      overrides.fields.get? key = some v ∨
      overrides.fields.get? key = none ∧ Computed file legacy format sourcemap key v := by
  rw [assembledGet, Option.or_eq_some_iff, baseComputed]

theorem assembledAgain :
    assemble file legacy format sourcemap
        (assemble file legacy format sourcemap overrides.fields).fields =
      assemble file legacy format sourcemap overrides.fields := by
  refine congrArg Options.mk (Fields.orderedSame fun key => ?_)
  have again := assembledGet file legacy format sourcemap
    (assemble file legacy format sourcemap overrides.fields).toOrderedFields key
  have once := assembledGet file legacy format sourcemap overrides key
  rw [get?] at again once
  -- Whatever is computed is there already, so it is found before it is computed again.
  rw [once, Option.or_assoc, Option.or_self] at again
  exact again.trans once.symm

variable (file legacy format sourcemap) in
theorem userWins : UserWins file legacy format sourcemap overrides
    (assemble file legacy format sourcemap overrides.fields) := by
  refine ⟨fun key v => assembledValue overrides, fun key => ?_, moduleFilename _,
    moduleNameless _, holdsTruthy _ "dev", moduleGenerate _, assembledAgain overrides⟩
  rw [Fields.orderedKey (assemble file legacy format sourcemap overrides.fields).ordered,
    Fields.orderedKey overrides.ordered, ← computedKey file format]
  constructor
  · rintro ⟨v, found⟩
    rcases (assembledValue overrides).mp found with given | ⟨-, computed⟩
    · exact .inl ⟨v, given⟩
    · exact .inr ⟨v, computed⟩
  · intro there
    cases given : overrides.fields.get? key with
    | some v => exact ⟨v, (assembledValue overrides).mpr (.inl given)⟩
    | none =>
      rcases there with ⟨v, found⟩ | ⟨v, computed⟩
      · rw [given] at found
        cases found
      · exact ⟨v, (assembledValue overrides).mpr (.inr ⟨given, computed⟩)⟩

end

theorem nullWins : ∃ overrides : OrderedFields Json,
    overrides.fields = [("css", .null), ("dev", .string ""), ("filename", .array [])] ∧
    UserWins (.ofString "src/App.svelte") true .cjs none overrides
      (assemble (.ofString "src/App.svelte") true .cjs none overrides.fields) := by
  have ordered : Fields.Ordered
      [("css", Json.null), ("dev", .string ""), ("filename", .array [])] := by decide
  exact ⟨⟨_, ordered⟩, rfl, userWins _ _ _ _ _⟩

end SvelteTransform.Compile.Options
