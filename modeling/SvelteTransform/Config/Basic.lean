import SvelteTransform.Path

/-! Which config a file is preprocessed with: the setting, where to look, what a loaded config
holds and what can go wrong. -/
namespace SvelteTransform

inductive RootMode where
  | auto
  | upward
  deriving DecidableEq, Repr, Inhabited

def RootMode.name : RootMode → String
  | .auto => "auto"
  | .upward => "upward"

def RootMode.ofName? : String → Option RootMode
  | "auto" => some .auto
  | "upward" => some .upward
  | _ => none

inductive PreprocessSetting where
  | disabled
  | discover
  | path (config : Path)
  deriving DecidableEq, Repr, Inhabited

def PreprocessSetting.isEnabled : PreprocessSetting → Bool
  | .disabled => false
  | _ => true

inductive ConfigError where
  | notFound (searched : Path)
  | notFoundUpward (start : Path)
  | projectRoot (reason : String)
  | load (path : Path) (reason : String)
  deriving DecidableEq, Repr

def ConfigError.message : ConfigError → String
  | .notFound searched =>
    s!"could not find svelte.config.js or svelte.config.cjs in {searched}"
  | .notFoundUpward start =>
    s!"could not find svelte.config.js or svelte.config.cjs in {start} or any parent directory"
  | .projectRoot reason => s!"could not determine project root: {reason}"
  | .load path reason => s!"failed to load {path}: {reason}"

structure LoadedConfig (Definition : Type) where
  preprocess : Option Definition
  deriving DecidableEq, Repr

def LoadedConfig.definition {Definition : Type} [Inhabited Definition]
    (config : LoadedConfig Definition) : Definition :=
  config.preprocess.getD default

abbrev ConfigLoader (Definition : Type) := Path → Except ConfigError (LoadedConfig Definition)

end SvelteTransform
