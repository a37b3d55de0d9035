import SvelteTransform.Config.Basic
import SvelteTransform.Log.Basic

/-! Finding the config of a file. What exists is asked of a predicate on paths, every time anew. Of
the two names that a config may have in a directory the first is preferred. -/
namespace SvelteTransform.Config

def fileNames : List Path := [.ofString "svelte.config.js", .ofString "svelte.config.cjs"]

def inDirectory (isFile : Path → Bool) (directory : Path) : Option Path :=
  (fileNames.map directory.join).find? isFile

def start (root filename : Path) : Path :=
  ((root.join filename).parent).getD root

def discover (isFile : Path → Bool) (root : Path) (mode : RootMode) (filename : Path) :
    Except ConfigError Path :=
  match mode with
  | .auto =>
    match inDirectory isFile root with
    | some config => .ok config
    | none => .error (.notFound root)
  | .upward =>
    match (start root filename).ancestors.findSome? (inDirectory isFile) with
    | some config => .ok config
    | none => .error (.notFoundUpward (start root filename))

def candidates (root : Path) (mode : RootMode) (filename : Path) : List Path :=
  let directories := match mode with
    | .auto => [root]
    | .upward => (start root filename).ancestors
  directories.flatMap fun directory => fileNames.map directory.join

def resolve (isFile : Path → Bool) (root : Path) (mode : RootMode) (filename : Path) :
    PreprocessSetting → Except ConfigError (Option Path)
  | .disabled => .ok none
  | .path config => .ok (some config)
  | .discover => (discover isFile root mode filename).map some

def foundRecord (config : Path) : Log.Record :=
  ⟨.trace, "svelte_config::resolver", s!"found svelte config at {config}"⟩

end SvelteTransform.Config
