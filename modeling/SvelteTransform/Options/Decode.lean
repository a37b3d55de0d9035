import SvelteTransform.Json.Printer
import SvelteTransform.Options.Basic

/-! Options from the host's JSON. As an object the fields stand under their names, are looked at
in the order of the names, and other members mean nothing; as an array they stand in the order of
declaration and trailing ones may be left out. A field has one decoder in both forms. -/
namespace SvelteTransform

inductive OptionsError where
  | mismatch (found : Json) (wanted : String)
  | negative (found : Json) (wanted : String)
  | unknownMode (name : String)
  | notOneMember
  | noVariant (kind : String)
  | tooLong (length : Nat)
  deriving DecidableEq

def OptionsError.message : OptionsError → String
  | .mismatch found wanted => s!"invalid type: {found.described}, expected {wanted}"
  | .negative found wanted => s!"invalid value: {found.described}, expected {wanted}"
  | .unknownMode name => s!"unknown variant `{name}`, expected `auto` or `upward`"
  | .notOneMember => "invalid value: map, expected map with a single key"
  | .noVariant kind => s!"data did not match any variant of untagged enum {kind}"
  | .tooLong length => s!"invalid length {length}, expected fewer elements in array"

namespace Options

/-- The empty text is no path, so it turns preprocessing off. -/
def decodePreprocess : Json → Except OptionsError PreprocessSetting
  | .boolean true => .ok .discover
  | .boolean false | .null => .ok .disabled
  | .string text => .ok (if text = "" then .disabled else .path (.ofString text))
  | _ => .error (.noVariant "RawPreprocess")

def modeNamed (name : String) : Except OptionsError RootMode :=
  match RootMode.ofName? name with
  | some mode => .ok mode
  | none => .error (.unknownMode name)

def decodeRootMode : Json → Except OptionsError RootMode
  | .string name => modeNamed name
  | .object [(name, content)] => do
    let mode ← modeNamed name
    match content with
    | .null => return mode
    | other => .error (.mismatch other "unit")
  | .object _ => .error .notOneMember
  | other => .error (.mismatch other "string or map")

def decodeCompilerOptions : Json → Except OptionsError (Fields Json)
  | .object members => .ok members
  | .null => .ok []
  | other => .error (.mismatch other "a map")

def decodeMaxBuffer : Json → Except OptionsError (Option Nat)
  | .number (.natural n _) => .ok (some n)
  | .null => .ok none
  | .number (.negative n fits) => .error (.negative (.number (.negative n fits)) "usize")
  | other => .error (.mismatch other "usize")

def decodeShowLog : Json → Except OptionsError Bool
  | .boolean b => .ok b
  | .string text => .ok (text != "" && text != "false")
  | .null => .ok false
  | _ => .error (.noVariant "Raw")

def decodeDebug : Json → Except OptionsError Bool
  | .boolean b => .ok b
  | other => .error (.mismatch other "a boolean")

def decodeVersion : Json → Except OptionsError (Option Version)
  | .string text => .ok (some ⟨text⟩)
  | .null => .ok none
  | other => .error (.mismatch other "a string")

inductive Name where
  | preprocess
  | rootMode
  | compilerOptions
  | maxBuffer
  | showConsoleLog
  | debug
  | svelteVersion
  deriving DecidableEq, Repr

def Name.text : Name → String
  | .preprocess => "preprocess"
  | .rootMode => "rootMode"
  | .compilerOptions => "compilerOptions"
  | .maxBuffer => "maxBuffer"
  | .showConsoleLog => "showConsoleLog"
  | .debug => "debug"
  | .svelteVersion => "svelteVersion"

def Name.declared : List Name :=
  [.preprocess, .rootMode, .compilerOptions, .maxBuffer, .showConsoleLog, .debug, .svelteVersion]

def Name.sorted : List Name :=
  [.compilerOptions, .debug, .maxBuffer, .preprocess, .rootMode, .showConsoleLog, .svelteVersion]

def set (o : Options) (v : Json) : Name → Except OptionsError Options
  | .preprocess => return { o with preprocess := ← decodePreprocess v }
  | .rootMode => return { o with rootMode := ← decodeRootMode v }
  | .compilerOptions => return { o with compilerOptions := ← decodeCompilerOptions v }
  | .maxBuffer => return { o with maxBuffer := ← decodeMaxBuffer v }
  | .showConsoleLog => return { o with showLog := ← decodeShowLog v }
  | .debug => return { o with debug := ← decodeDebug v }
  | .svelteVersion => return { o with version := ← decodeVersion v }

def setAll (o : Options) : List (Name × Json) → Except OptionsError Options
  | [] => .ok o
  | (name, v) :: rest => do setAll (← o.set v name) rest

def present (members : Fields Json) : List (Name × Json) :=
  Name.sorted.filterMap fun name => (members.get? name.text).map (name, ·)

def ofJson : Json → Except OptionsError Options
  | .object members => setAll {} (present members)
  | .array items => do
    let o ← setAll {} (Name.declared.zip items)
    if Name.declared.length < items.length then .error (.tooLong items.length) else .ok o
  | other => .error (.mismatch other "struct TransformOptions")

def ofHost (config : Json) : Except OptionsError Options :=
  match config.get? "transformerConfig" with
  | none | some .null => .ok {}
  | some options => ofJson options

end Options
end SvelteTransform
