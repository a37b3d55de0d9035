import SvelteTransform.Proofs.Json.Steps
import SvelteTransform.Proofs.Options.Meaning

/-! Options field by field. Each field is what its own value means, whatever else is given, and of
several values that mean nothing the first is reported. -/
namespace SvelteTransform.Options
open Json.Reader (bindOk okBind)

theorem setAllNext (o : Options) (name : Name) (v : Json) (rest : List (Name × Json)) :
    o.setAll ((name, v) :: rest) =
      (decode name v >>= fun x => (o.put name x).setAll rest) := by
  rw [setAll, setDecodes]
  cases decode name v <;> rfl

theorem setAllFields {o p : Options} {given : List (Name × Json)}
    (once : (given.map Prod.fst).Nodup) (ok : o.setAll given = .ok p) (name : Name) :
    (∀ v, (name, v) ∈ given → Means name v (p.field name)) ∧
      ((∀ v, (name, v) ∉ given) → p.field name = o.field name) := by
  induction given generalizing o with
  | nil =>
    cases ok
    exact ⟨nofun, fun _ => rfl⟩
  | cons first rest ih =>
    obtain ⟨other, w⟩ := first
    rw [setAllNext] at ok
    obtain ⟨x, decoded, ok⟩ := bindOk.mp ok
    obtain ⟨notLater, more⟩ := List.nodup_cons.mp once
    obtain ⟨means, stays⟩ := ih more ok
    by_cases same : name = other
    -- Nothing later is given for this name, so what is put now is there at the end.
    · subst same
      have absent : ∀ v, (name, v) ∉ rest := fun v later =>
        notLater (List.mem_map.mpr ⟨_, later, rfl⟩)
      have kept : p.field name = x := (stays absent).trans (putField o name x)
      refine ⟨fun v member => ?_, fun absent => absurd List.mem_cons_self (absent w)⟩
      rcases List.mem_cons.mp member with here | later
      · cases here
        rw [kept]
        exact decodeOk.mp decoded
      · exact absurd later (absent v)
    · refine ⟨fun v member => ?_, fun absent => ?_⟩
      · rcases List.mem_cons.mp member with here | later
        · cases here
          exact absurd rfl same
        · exact means v later
      · rw [stays fun v later => absent v (List.mem_cons_of_mem _ later), putBeside o same]

theorem setAllSucceeds {o : Options} {given : List (Name × Json)} :
    (∃ p, o.setAll given = .ok p) ↔ ∀ name v, (name, v) ∈ given → ∃ x, Means name v x := by
  induction given generalizing o with
  | nil => exact ⟨fun _ => nofun, fun _ => ⟨o, rfl⟩⟩
  | cons first rest ih =>
    obtain ⟨other, w⟩ := first
    rw [setAllNext]
    constructor
    · rintro ⟨p, ok⟩ name v member
      obtain ⟨x, decoded, ok⟩ := bindOk.mp ok
      rcases List.mem_cons.mp member with here | later
      · cases here
        exact ⟨x, decodeOk.mp decoded⟩
      · exact ih.mp ⟨p, ok⟩ name v later
    · intro all
      obtain ⟨x, means⟩ := all other w List.mem_cons_self
      have further : ∃ p, (o.put other x).setAll rest = .ok p := ih.mpr fun name v later =>
        all name v (List.mem_cons_of_mem _ later)
      obtain ⟨p, ok⟩ := further
      exact ⟨p, bindOk.mpr ⟨x, decodeOk.mpr means, ok⟩⟩

theorem setAllAppend (o : Options) (before after : List (Name × Json)) :
    o.setAll (before ++ after) = (o.setAll before >>= fun p => p.setAll after) := by
  induction before generalizing o with
  | nil => rfl
  | cons first before ih =>
    obtain ⟨name, v⟩ := first
    rw [List.cons_append, setAllNext, setAllNext]
    cases decode name v with
    | error e => rfl
    | ok x => exact ih (o.put name x)

theorem setAllFails {o : Options} {given : List (Name × Json)} {e : OptionsError} :
    o.setAll given = .error e ↔ ∃ before name v after, given = before ++ (name, v) :: after ∧
      (∀ other w, (other, w) ∈ before → ∃ x, Means other w x) ∧ Wrong name v e := by
  constructor
  · intro failed
    induction given generalizing o with
    | nil => cases failed
    | cons first rest ih =>
      obtain ⟨name, v⟩ := first
      rw [setAllNext] at failed
      cases decoded : decode name v with
      | error f =>
        rw [decoded] at failed
        cases failed
        exact ⟨[], name, v, rest, rfl, nofun, decodeError.mp decoded⟩
      | ok x =>
        rw [decoded] at failed
        obtain ⟨before, other, w, after, whole, good, wrong⟩ := ih failed
        refine ⟨(name, v) :: before, other, w, after, by rw [whole, List.cons_append], ?_, wrong⟩
        intro one u member
        rcases List.mem_cons.mp member with here | later
        · cases here
          exact ⟨x, decodeOk.mp decoded⟩
        · exact good one u later
  · rintro ⟨before, name, v, after, rfl, good, wrong⟩
    have set : ∃ p, o.setAll before = .ok p := setAllSucceeds.mpr good
    obtain ⟨p, ok⟩ := set
    -- All before it are set, so the run gets as far as the one that is wrong.
    rw [setAllAppend, ok, okBind, setAllNext, decodeError.mpr wrong]
    rfl

/-- Of the values that mean nothing the first in an order of the fields is wrong in this way. -/
def FirstWrong (value : Name → Option Json) (before : Name → Name → Prop) (e : OptionsError) :
    Prop :=
  ∃ name v, value name = some v ∧ Wrong name v e ∧
    ∀ other w, before other name → value other = some w → ∃ x, Means other w x

theorem setAllFirst {before : Name → Name → Prop} (strict : ∀ a b, before a b → ¬ before b a)
    {pairs : List (Name × Json)} (increasing : pairs.Pairwise fun a b => before a.1 b.1)
    {value : Name → Option Json} (listed : ∀ name v, (name, v) ∈ pairs ↔ value name = some v)
    {o : Options} {e : OptionsError} : o.setAll pairs = .error e ↔ FirstWrong value before e := by
  rw [setAllFails]
  constructor
  · rintro ⟨former, name, v, later, whole, good, wrong⟩
    rw [whole, List.pairwise_append] at increasing
    refine ⟨name, v, (listed name v).mp ?_, wrong, fun other w earlier found => good other w ?_⟩
    · rw [whole]
      exact List.mem_append_right _ List.mem_cons_self
    · have isIn := (listed other w).mpr found
      rw [whole, List.mem_append] at isIn
      refine isIn.resolve_right fun notBefore => ?_
      rcases List.mem_cons.mp notBefore with here | after
      · cases here
        exact strict _ _ earlier earlier
      · exact strict _ _ earlier ((List.pairwise_cons.mp increasing.2.1).1 _ after)
  · rintro ⟨name, v, found, wrong, good⟩
    obtain ⟨former, later, whole⟩ := List.append_of_mem ((listed name v).mpr found)
    rw [whole, List.pairwise_append] at increasing
    refine ⟨former, name, v, later, whole, fun other w member => ?_, wrong⟩
    have earlier := increasing.2.2 _ member _ List.mem_cons_self
    refine good other w earlier ((listed other w).mp ?_)
    rw [whole]
    exact List.mem_append_left _ member

theorem sortedIncreasing : Name.sorted.Pairwise fun a b => a.text < b.text := by decide

theorem sortedAll (name : Name) : name ∈ Name.sorted := by cases name <;> decide

theorem presentIncreasing (members : Fields Json) :
    (present members).Pairwise fun a b => a.1.text < b.1.text := by
  refine List.pairwise_filterMap.mpr (sortedIncreasing.imp fun less a ofA b ofB => ?_)
  obtain ⟨_, -, rfl⟩ := Option.map_eq_some_iff.mp ofA
  obtain ⟨_, -, rfl⟩ := Option.map_eq_some_iff.mp ofB
  exact less

theorem presentOnce (members : Fields Json) : ((present members).map Prod.fst).Nodup :=
  List.pairwise_map.mpr ((presentIncreasing members).imp fun less same => by
    rw [same] at less
    exact String.lt_irrefl _ less)

theorem presentMember {members : Fields Json} {name : Name} {v : Json} :
    (name, v) ∈ present members ↔ Fields.get? members name.text = some v := by
  rw [present, List.mem_filterMap]
  constructor
  · rintro ⟨other, -, found⟩
    obtain ⟨w, got, same⟩ := Option.map_eq_some_iff.mp found
    cases same
    exact got
  · intro got
    exact ⟨name, sortedAll name, by rw [got]; rfl⟩

def Name.position : Name → Nat
  | .preprocess => 0
  | .rootMode => 1
  | .compilerOptions => 2
  | .maxBuffer => 3
  | .showConsoleLog => 4
  | .debug => 5
  | .svelteVersion => 6

theorem declaredAt {i : Nat} {name : Name} :
    Name.declared[i]? = some name ↔ i = name.position := by
  constructor
  · intro found
    obtain ⟨inside, rfl⟩ := List.getElem?_eq_some_iff.mp found
    have all : ∀ n : Fin Name.declared.length, n.val = (Name.declared.get n).position := by decide
    exact all ⟨i, inside⟩
  · rintro rfl
    cases name <;> rfl

def given : Json → Name → Option Json
  | .object members, name => Fields.get? members name.text
  | .array items, name => items[name.position]?
  | _, _ => none

theorem zippedMember {items : List Json} {name : Name} {v : Json} :
    (name, v) ∈ Name.declared.zip items ↔ items[name.position]? = some v := by
  simp only [List.mem_iff_getElem?, List.getElem?_zip_eq_some, declaredAt, exists_eq_left]

theorem zippedNames {α β : Type} (names : List α) (items : List β) :
    (names.zip items).map Prod.fst <+: names := by
  induction names generalizing items with
  | nil => exact List.prefix_refl _
  | cons name names ih =>
    cases items with
    | nil => exact List.nil_prefix
    | cons item items => exact (List.prefix_cons_inj name).mpr (ih items)

theorem zippedOnce (items : List Json) : ((Name.declared.zip items).map Prod.fst).Nodup :=
  (zippedNames Name.declared items).sublist.nodup (by decide)

def Filled (value : Option Json) (name : Name) (x : name.Value) : Prop :=
  (∀ v, value = some v → Means name v x) ∧ (value = none → x = Options.field {} name)

theorem filledOne {value : Option Json} {name : Name} {x y : name.Value}
    (one : Filled value name x) (other : Filled value name y) : x = y := by
  cases value with
  | none => rw [one.2 rfl, other.2 rfl]
  | some v => exact meansOne (one.1 v rfl) (other.1 v rfl)

theorem setAllGiven {pairs : List (Name × Json)} {value : Name → Option Json}
    (once : (pairs.map Prod.fst).Nodup)
    (listed : ∀ name v, (name, v) ∈ pairs ↔ value name = some v) {o : Options}
    (ok : setAll {} pairs = .ok o) (name : Name) : Filled (value name) name (o.field name) := by
  obtain ⟨means, stays⟩ := setAllFields once ok name
  refine ⟨fun v found => means v ((listed name v).mpr found),
    fun absent => stays fun v member => ?_⟩
  rw [(listed name v).mp member] at absent
  cases absent

theorem ofJsonFields {options : Json} {o : Options} (ok : ofJson options = .ok o) (name : Name) :
    Filled (given options name) name (o.field name) := by
  cases options with
  | object members =>
    exact setAllGiven (presentOnce members) (fun _ _ => presentMember) ok name
  | array items =>
    obtain ⟨p, ok, short⟩ := bindOk.mp ok
    split at short
    · cases short
    · cases short
      exact setAllGiven (zippedOnce items) (fun _ _ => zippedMember) ok name
  | null | boolean | number | string => cases ok

structure ByName (members : Fields Json) (result : Except OptionsError Options) : Prop where
  succeeds : (∃ o, result = .ok o) ↔
    ∀ name v, Fields.get? members name.text = some v → ∃ x, Means name v x
  fields : ∀ o, result = .ok o → ∀ name, Filled (Fields.get? members name.text) name (o.field name)
  fails : ∀ e, result = .error e ↔ ∃ name v, Fields.get? members name.text = some v ∧
    Wrong name v e ∧ ∀ other w, other.text < name.text →
      Fields.get? members other.text = some w → ∃ x, Means other w x
  apart : ∀ others o p, result = .ok o → ofJson (.object others) = .ok p → ∀ name,
    Fields.get? others name.text = Fields.get? members name.text → p.field name = o.field name
  unknown : ∀ others,
    (∀ name : Name, Fields.get? others name.text = Fields.get? members name.text) →
    ofJson (.object others) = result

theorem objectFails {members : Fields Json} {e : OptionsError} :
    ofJson (.object members) = .error e ↔
      FirstWrong (fun name => Fields.get? members name.text) (fun a b => a.text < b.text) e :=
  setAllFirst (fun _ _ => String.lt_asymm) (presentIncreasing members) fun _ _ => presentMember

theorem presentAlike {members others : Fields Json}
    (same : ∀ name : Name, Fields.get? others name.text = Fields.get? members name.text) :
    present others = present members := by
  unfold present
  simp only [same]

theorem objectByName (members : Fields Json) : ByName members (ofJson (.object members)) := by
  have fields := fun o (ok : ofJson (.object members) = .ok o) => ofJsonFields ok
  refine ⟨?_, fields, fun e => objectFails, fun others o p ok also name same => ?_,
    fun others same => ?_⟩
  · rw [ofJson, setAllSucceeds]
    simp only [presentMember]
  · have other := ofJsonFields also name
    rw [given, same] at other
    exact filledOne other (fields o ok name)
  · rw [ofJson, ofJson, presentAlike same]

theorem limitPositive (o : Options) : 0 < o.outputLimit := by
  unfold outputLimit
  cases o.maxBuffer with
  | none => decide
  | some limit =>
    cases limit with
    | zero => decide
    | succ limit => exact Nat.succ_pos limit

theorem noEmptyPath {value : Option Json} {setting : PreprocessSetting}
    (filled : Filled value .preprocess setting) : setting ≠ .path ⟨[]⟩ := by
  cases value with
  | none =>
    rw [filled.2 rfl]
    exact nofun
  | some v =>
    have means := filled.1 v rfl
    cases means with
    | path text nonempty =>
      intro isEmpty
      cases spelling : text.toList with
      | nil => exact nonempty (String.toList_eq_nil_iff.mp spelling)
      | cons c rest =>
        rw [Path.ofString, spelling] at isEmpty
        cases isEmpty
    | _ => exact nofun

theorem logShown {value : Option Json} {shown : Bool}
    (filled : Filled value .showConsoleLog shown) : shown = true ↔ value = some (.boolean true) ∨
      ∃ text, value = some (.string text) ∧ text ≠ "" ∧ text ≠ "false" := by
  cases value with
  | none =>
    rw [filled.2 rfl]
    exact ⟨nofun, by simp⟩
  | some v =>
    have means := filled.1 v rfl
    cases means with
    | showLog b => simp
    | shownByText text nonempty notFalse => simp [nonempty, notFalse]
    | hiddenByText text hides =>
      have notShown : ¬ (text ≠ "" ∧ text ≠ "false") := by
        rwa [ne_eq, ne_eq, ← not_or, Classical.not_not]
      simp only [Option.some.injEq, Json.string.injEq, exists_eq_left', notShown]
      exact ⟨nofun, by simp⟩
    | noShowLog => simp

structure Decoded (config : Json) : Prop where
  untouched : (∀ members, config ≠ .object members) ∨ config.get? "transformerConfig" = none ∨
    config.get? "transformerConfig" = some .null → ofHost config = .ok {}
  flat : ∀ options, config.get? "transformerConfig" = some options →
    ((∃ b, options = .boolean b) ∨ (∃ n, options = .number n) ∨ ∃ text, options = .string text) →
    ofHost config = .error (.mismatch options "struct TransformOptions")
  object : ∀ members, config.get? "transformerConfig" = some (.object members) →
    ByName members (ofHost config)
  limit : ∀ o, ofHost config = .ok o → 0 < o.outputLimit
  noEmptyPath : ∀ o, ofHost config = .ok o → o.preprocess ≠ .path ⟨[]⟩
  shown : ∀ options o, config.get? "transformerConfig" = some options → ofHost config = .ok o →
    (o.showLog = true ↔ given options .showConsoleLog = some (.boolean true) ∨
      ∃ text, given options .showConsoleLog = some (.string text) ∧ text ≠ "" ∧ text ≠ "false")

theorem hostGiven {config options : Json} (there : config.get? "transformerConfig" = some options)
    (given : options ≠ .null) : ofHost config = ofJson options := by
  unfold ofHost
  rw [there]
  cases options with
  | null => exact absurd rfl given
  | _ => rfl

theorem hostUntouched {config : Json} (nothing : config.get? "transformerConfig" = none ∨
    config.get? "transformerConfig" = some .null) : ofHost config = .ok {} := by
  unfold ofHost
  rcases nothing with absent | null
  · rw [absent]
  · rw [null]

theorem hostFields {config : Json} {o : Options} (ok : ofHost config = .ok o) (name : Name) :
    Filled ((config.get? "transformerConfig").bind (given · name)) name (o.field name) := by
  cases there : config.get? "transformerConfig" with
  | none =>
    rw [hostUntouched (.inl there)] at ok
    cases ok
    exact ⟨nofun, fun _ => rfl⟩
  | some options =>
    by_cases null : options = .null
    · rw [null] at there ⊢
      rw [hostUntouched (.inr there)] at ok
      cases ok
      exact ⟨nofun, fun _ => rfl⟩
    · rw [hostGiven there null] at ok
      exact ofJsonFields ok name

theorem decodedByField (config : Json) : Decoded config := by
  refine ⟨?_, fun options there isFlat => ?_, fun members there => ?_, fun o _ => limitPositive o,
    fun o ok => noEmptyPath (hostFields ok .preprocess), fun options o there ok => ?_⟩
  · rintro (other | nothing)
    · refine hostUntouched (.inl ?_)
      cases config with
      | object members => exact absurd rfl (other members)
      | _ => rfl
    · exact hostUntouched nothing
  · rcases isFlat with ⟨b, rfl⟩ | ⟨n, rfl⟩ | ⟨text, rfl⟩
    · exact hostGiven there nofun
    · exact hostGiven there nofun
    · exact hostGiven there nofun
  · rw [hostGiven there nofun]
    exact objectByName members
  · have filled := hostFields ok .showConsoleLog
    rw [there] at filled
    exact logShown filled

example : ofHost (.object [("transformerConfig", .object [("debug", .null),
    ("maxBuffer", .string "1"), ("other", .boolean true)])]) =
    .error (.mismatch .null "a boolean") := by rfl

end SvelteTransform.Options
