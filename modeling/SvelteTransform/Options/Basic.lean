import SvelteTransform.Config.Basic
import SvelteTransform.Json.Basic
import SvelteTransform.Options.Version

/-! What the host asks of one transformation. -/
namespace SvelteTransform

def defaultMaxBuffer : Nat := 10 * 1024 * 1024

structure Options where
  preprocess : PreprocessSetting := .disabled
  rootMode : RootMode := .auto
  compilerOptions : Fields Json := []
  maxBuffer : Option Nat := none
  showLog : Bool := false
  debug : Bool := false
  version : Option Version := none
  deriving DecidableEq

namespace Options

/-- Zero counts as no limit given. -/
def outputLimit (o : Options) : Nat :=
  match o.maxBuffer with
  | none | some 0 => defaultMaxBuffer
  | some limit => limit

def isLegacy (o : Options) (installed : Option String) : Bool :=
  match o.version with
  | some version => version.isLegacy
  | none => (installed.map fun text => Version.isLegacy ⟨text⟩).getD false

end Options
end SvelteTransform
