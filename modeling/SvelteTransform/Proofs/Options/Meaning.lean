import SvelteTransform.Options.Decode

/-! What a JSON value means under the name of a field, and why it means nothing there. Decoding a
field finds the one or the other. -/
namespace SvelteTransform.Options

def Name.Value : Name → Type
  | .preprocess => PreprocessSetting
  | .rootMode => RootMode
  | .compilerOptions => Fields Json
  | .maxBuffer => Option Nat
  | .showConsoleLog => Bool
  | .debug => Bool
  | .svelteVersion => Option Version

def field (o : Options) : (name : Name) → name.Value
  | .preprocess => o.preprocess
  | .rootMode => o.rootMode
  | .compilerOptions => o.compilerOptions
  | .maxBuffer => o.maxBuffer
  | .showConsoleLog => o.showLog
  | .debug => o.debug
  | .svelteVersion => o.version

def put (o : Options) : (name : Name) → name.Value → Options
  | .preprocess, x => { o with preprocess := x }
  | .rootMode, x => { o with rootMode := x }
  | .compilerOptions, x => { o with compilerOptions := x }
  | .maxBuffer, x => { o with maxBuffer := x }
  | .showConsoleLog, x => { o with showLog := x }
  | .debug, x => { o with debug := x }
  | .svelteVersion, x => { o with version := x }

def decode : (name : Name) → Json → Except OptionsError name.Value
  | .preprocess, v => decodePreprocess v
  | .rootMode, v => decodeRootMode v
  | .compilerOptions, v => decodeCompilerOptions v
  | .maxBuffer, v => decodeMaxBuffer v
  | .showConsoleLog, v => decodeShowLog v
  | .debug, v => decodeDebug v
  | .svelteVersion, v => decodeVersion v

theorem setDecodes (o : Options) (v : Json) (name : Name) :
    o.set v name = (decode name v >>= fun x => .ok (o.put name x)) := by
  cases name <;> rfl

theorem putField (o : Options) (name : Name) (x : name.Value) : (o.put name x).field name = x := by
  cases name <;> rfl

theorem putBeside (o : Options) {name other : Name} (different : other ≠ name) (x : name.Value) :
    (o.put name x).field other = o.field other := by
  cases name <;> cases other <;> first | rfl | exact absurd rfl different

inductive Means : (name : Name) → Json → name.Value → Prop where
  | discover : Means .preprocess (.boolean true) PreprocessSetting.discover
  | disabled : Means .preprocess (.boolean false) PreprocessSetting.disabled
  | noSetting : Means .preprocess .null PreprocessSetting.disabled
  | noPath : Means .preprocess (.string "") PreprocessSetting.disabled
  | path (text : String) (nonempty : text ≠ "") :
      Means .preprocess (.string text) (PreprocessSetting.path (.ofString text))
  | mode (text : String) (mode : RootMode) (named : mode.name = text) :
      Means .rootMode (.string text) mode
  | modeAlone (text : String) (mode : RootMode) (named : mode.name = text) :
      Means .rootMode (.object [(text, .null)]) mode
  | compilerOptions (members : Fields Json) : Means .compilerOptions (.object members) members
  | noCompilerOptions : Means .compilerOptions .null ([] : Fields Json)
  | maxBuffer (n : Nat) (fits : n < UInt64.size) :
      Means .maxBuffer (.number (.natural n fits)) (some n)
  | noMaxBuffer : Means .maxBuffer .null (none : Option Nat)
  | showLog (b : Bool) : Means .showConsoleLog (.boolean b) b
  | shownByText (text : String) (nonempty : text ≠ "") (notFalse : text ≠ "false") :
      Means .showConsoleLog (.string text) true
  | hiddenByText (text : String) (hides : text = "" ∨ text = "false") :
      Means .showConsoleLog (.string text) false
  | noShowLog : Means .showConsoleLog .null false
  | debug (b : Bool) : Means .debug (.boolean b) b
  | version (text : String) : Means .svelteVersion (.string text) (some (Version.mk text))
  | noVersion : Means .svelteVersion .null (none : Option Version)

inductive Wrong : Name → Json → OptionsError → Prop where
  | preprocess (v : Json) (odd : ∀ x, ¬ Means .preprocess v x) :
      Wrong .preprocess v (.noVariant "RawPreprocess")
  | mode (text : String) (unknown : ∀ mode : RootMode, mode.name ≠ text) :
      Wrong .rootMode (.string text) (.unknownMode text)
  | modeAlone (text : String) (content : Json) (unknown : ∀ mode : RootMode, mode.name ≠ text) :
      Wrong .rootMode (.object [(text, content)]) (.unknownMode text)
  | modeContent (text : String) (content : Json) (mode : RootMode) (named : mode.name = text)
      (given : content ≠ .null) :
      Wrong .rootMode (.object [(text, content)]) (.mismatch content "unit")
  | modeMembers (members : Fields Json) (notOne : members.length ≠ 1) :
      Wrong .rootMode (.object members) .notOneMember
  | modeKind (v : Json) (notText : ∀ text, v ≠ .string text)
      (notObject : ∀ members, v ≠ .object members) :
      Wrong .rootMode v (.mismatch v "string or map")
  | compilerOptions (v : Json) (odd : ∀ x, ¬ Means .compilerOptions v x) :
      Wrong .compilerOptions v (.mismatch v "a map")
  | negative (n : Nat) (fits : 0 < n ∧ n ≤ UInt64.size / 2) :
      Wrong .maxBuffer (.number (.negative n fits))
        (.negative (.number (.negative n fits)) "usize")
  | maxBuffer (v : Json) (odd : ∀ x, ¬ Means .maxBuffer v x)
      (notNegative : ∀ n fits, v ≠ .number (.negative n fits)) :
      Wrong .maxBuffer v (.mismatch v "usize")
  | showLog (v : Json) (odd : ∀ x, ¬ Means .showConsoleLog v x) :
      Wrong .showConsoleLog v (.noVariant "Raw")
  | debug (v : Json) (odd : ∀ x, ¬ Means .debug v x) : Wrong .debug v (.mismatch v "a boolean")
  | version (v : Json) (odd : ∀ x, ¬ Means .svelteVersion v x) :
      Wrong .svelteVersion v (.mismatch v "a string")

theorem modeKnown {text : String} {mode : RootMode} (named : mode.name = text) :
    modeNamed text = .ok mode := by
  subst named
  cases mode <;> rfl

theorem modeUnknown {text : String} (unknown : ∀ mode : RootMode, mode.name ≠ text) :
    modeNamed text = .error (.unknownMode text) := by
  unfold modeNamed RootMode.ofName?
  split
  · rename_i found
    split at found
    · exact absurd rfl (unknown .auto)
    · exact absurd rfl (unknown .upward)
    · cases found
  · rfl

theorem modeOrNot (text : String) :
    (∃ mode : RootMode, mode.name = text) ∨ ∀ mode : RootMode, mode.name ≠ text := by
  rw [← not_exists]
  exact Classical.em _

theorem modeAloneRefused {text : String} (unknown : ∀ mode : RootMode, mode.name ≠ text)
    (content : Json) :
    decode .rootMode (.object [(text, content)]) = .error (.unknownMode text) := by
  rw [decode, decodeRootMode, modeUnknown unknown]
  rfl

theorem modeContentRefused {text : String} {content : Json} {mode : RootMode}
    (named : mode.name = text) (given : content ≠ .null) :
    decode .rootMode (.object [(text, content)]) = .error (.mismatch content "unit") := by
  rw [decode, decodeRootMode, modeKnown named]
  cases content with
  | null => exact absurd rfl given
  | _ => rfl

theorem modeMembersRefused {members : Fields Json} (notOne : members.length ≠ 1) :
    decode .rootMode (.object members) = .error .notOneMember := by
  match members with
  | [] => rfl
  | [_] => exact absurd rfl notOne
  | (_, _) :: _ :: _ => rfl

theorem modeKindRefused {v : Json} (notText : ∀ text, v ≠ .string text)
    (notObject : ∀ members, v ≠ .object members) :
    decode .rootMode v = .error (.mismatch v "string or map") := by
  cases v with
  | string text => exact absurd rfl (notText text)
  | object members => exact absurd rfl (notObject members)
  | _ => rfl

theorem decodeMeans {name : Name} {v : Json} {x : name.Value} (means : Means name v x) :
    decode name v = .ok x := by
  cases means with
  | path text nonempty =>
    rw [decode, decodePreprocess, if_neg nonempty]
    rfl
  | mode text mode named => exact modeKnown named
  | modeAlone text mode named =>
    rw [decode, decodeRootMode, modeKnown named]
    rfl
  | shownByText text nonempty notFalse =>
    rw [decode, decodeShowLog, bne_iff_ne.mpr nonempty, bne_iff_ne.mpr notFalse]
    rfl
  | hiddenByText text hides =>
    rcases hides with rfl | rfl
    · rfl
    · rfl
  | _ => rfl

def Decided (name : Name) (v : Json) : Prop :=
  (∃ x, decode name v = .ok x ∧ Means name v x) ∨ ∃ e, decode name v = .error e ∧ Wrong name v e

theorem decided {name : Name} {v : Json} {x : name.Value} (means : Means name v x) :
    Decided name v := .inl ⟨x, decodeMeans means, means⟩

theorem decidedPreprocess (v : Json) : Decided .preprocess v := by
  cases v with
  | null => exact decided .noSetting
  | boolean b =>
    cases b with
    | true => exact decided .discover
    | false => exact decided .disabled
  | string text =>
    by_cases empty : text = ""
    · rw [empty]
      exact decided .noPath
    · exact decided (.path text empty)
  | number | array | object => exact .inr ⟨_, rfl, .preprocess _ nofun⟩

theorem decidedModeMembers (members : Fields Json) : Decided .rootMode (.object members) := by
  by_cases one : members.length = 1
  · obtain ⟨⟨text, content⟩, rfl⟩ := List.length_eq_one_iff.mp one
    rcases modeOrNot text with ⟨mode, named⟩ | unknown
    · by_cases nothing : content = .null
      · rw [nothing]
        exact decided (.modeAlone text mode named)
      · exact .inr ⟨_, modeContentRefused named nothing, .modeContent _ _ mode named nothing⟩
    · exact .inr ⟨_, modeAloneRefused unknown content, .modeAlone _ _ unknown⟩
  · exact .inr ⟨_, modeMembersRefused one, .modeMembers members one⟩

theorem decidedMode (v : Json) : Decided .rootMode v := by
  cases v with
  | string text =>
    rcases modeOrNot text with ⟨mode, named⟩ | unknown
    · exact decided (.mode text mode named)
    · exact .inr ⟨_, modeUnknown unknown, .mode text unknown⟩
  | object members => exact decidedModeMembers members
  | null | boolean | number | array => exact .inr ⟨_, rfl, .modeKind _ nofun nofun⟩

theorem decidedCompilerOptions (v : Json) : Decided .compilerOptions v := by
  cases v with
  | null => exact decided .noCompilerOptions
  | object members => exact decided (.compilerOptions members)
  | boolean | number | string | array => exact .inr ⟨_, rfl, .compilerOptions _ nofun⟩

theorem decidedMaxBuffer (v : Json) : Decided .maxBuffer v := by
  cases v with
  | null => exact decided .noMaxBuffer
  | number n =>
    cases n with
    | natural n fits => exact decided (.maxBuffer n fits)
    | negative n fits => exact .inr ⟨_, rfl, .negative n fits⟩
    | real => exact .inr ⟨_, rfl, .maxBuffer _ nofun nofun⟩
  | boolean | string | array | object => exact .inr ⟨_, rfl, .maxBuffer _ nofun nofun⟩

theorem decidedShowLog (v : Json) : Decided .showConsoleLog v := by
  cases v with
  | null => exact decided .noShowLog
  | boolean b => exact decided (.showLog b)
  | string text =>
    by_cases hides : text = "" ∨ text = "false"
    · exact decided (.hiddenByText text hides)
    · rw [not_or] at hides
      exact decided (.shownByText text hides.1 hides.2)
  | number | array | object => exact .inr ⟨_, rfl, .showLog _ nofun⟩

theorem decidedDebug (v : Json) : Decided .debug v := by
  cases v with
  | boolean b => exact decided (.debug b)
  | null | number | string | array | object => exact .inr ⟨_, rfl, .debug _ nofun⟩

theorem decidedVersion (v : Json) : Decided .svelteVersion v := by
  cases v with
  | null => exact decided .noVersion
  | string text => exact decided (.version text)
  | boolean | number | array | object => exact .inr ⟨_, rfl, .version _ nofun⟩

theorem decidedAlways (name : Name) (v : Json) : Decided name v := by
  cases name with
  | preprocess => exact decidedPreprocess v
  | rootMode => exact decidedMode v
  | compilerOptions => exact decidedCompilerOptions v
  | maxBuffer => exact decidedMaxBuffer v
  | showConsoleLog => exact decidedShowLog v
  | debug => exact decidedDebug v
  | svelteVersion => exact decidedVersion v

theorem decodeOk {name : Name} {v : Json} {x : name.Value} :
    decode name v = .ok x ↔ Means name v x := by
  refine ⟨fun ok => ?_, decodeMeans⟩
  rcases decidedAlways name v with ⟨y, same, means⟩ | ⟨e, failed, -⟩
  · rw [ok] at same
    cases same
    exact means
  · rw [ok] at failed
    cases failed

theorem meansOne {name : Name} {v : Json} {x y : name.Value} (one : Means name v x)
    (other : Means name v y) : x = y :=
  Except.ok.inj ((decodeMeans one).symm.trans (decodeMeans other))

theorem oddFails {name : Name} {v : Json} (odd : ∀ x, ¬ Means name v x) :
    ∃ e, decode name v = .error e ∧ Wrong name v e := by
  rcases decidedAlways name v with ⟨x, -, means⟩ | fails
  · exact absurd means (odd x)
  · exact fails

theorem decodeError {name : Name} {v : Json} {e : OptionsError} :
    decode name v = .error e ↔ Wrong name v e := by
  constructor
  · intro failed
    rcases decidedAlways name v with ⟨x, ok, -⟩ | ⟨f, same, wrong⟩
    · rw [failed] at ok
      cases ok
    · rw [failed] at same
      cases same
      exact wrong
  · intro wrong
    cases wrong with
    | mode text unknown => exact modeUnknown unknown
    | modeAlone text content unknown => exact modeAloneRefused unknown content
    | modeContent text content mode named given => exact modeContentRefused named given
    | modeMembers members notOne => exact modeMembersRefused notOne
    | modeKind v notText notObject => exact modeKindRefused notText notObject
    | negative n fits => rfl
    | maxBuffer v odd notNegative =>
      obtain ⟨_, failed, wrong⟩ := oddFails odd
      cases wrong with
      | negative n fits => exact absurd rfl (notNegative n fits)
      | maxBuffer => exact failed
    | preprocess v odd | compilerOptions v odd | showLog v odd | debug v odd | version v odd =>
      obtain ⟨_, failed, wrong⟩ := oddFails odd
      cases wrong
      exact failed

end SvelteTransform.Options
