import SvelteTransform.Compile.Basic
import SvelteTransform.Config.Basic
import SvelteTransform.Json.Record
import SvelteTransform.Worker.Response

/-! Preprocessing that replaces texts, and config files that ask for it in plain JSON. -/
namespace SvelteTransform

abbrev Replacements := List (String × String)

namespace Replacements

def substitute (old new : List Char) : (skip : Nat) → List Char → List Char
  | _, [] => []
  | skip + 1, _ :: rest => substitute old new skip rest
  | 0, c :: rest =>
    if old.isPrefixOf (c :: rest) then new ++ substitute old new (old.length - 1) rest
    else c :: substitute old new 0 rest

def apply (rs : Replacements) (source : String) : Except String String :=
  if rs.any (·.1 = "") then .error "empty search string"
  else .ok <| String.ofList <|
    rs.foldl (fun text (old, new) => substitute old.toList new.toList 0 text) source.toList

open Json Json.Reader

def pair? : Json → Option (String × String)
  | .array [.string old, .string new] => some (old, new)
  | _ => none

def definition? : Json → Option (LoadedConfig Replacements)
  | .null => some ⟨none⟩
  | .array items => (items.mapM pair?).map fun rs => ⟨some rs⟩
  | _ => none

def configField : Field := anyField "preprocess" (depthLimit - 1)

def configDocument (text : List Char) : Except Fault Json :=
  match skipSpace text with
  | '\x7b' :: s => do
    let (found, s) ← fields [configField] text.length s
    finished s
    return (found.lookup configField.name).getD .null
  | '[' :: s => do
    let (definition, s) ← configField.value text.length s
    finished (← closeList s)
    return definition
  | _ => refuse .noValue text

def ofConfigText (text : String) : Option (LoadedConfig Replacements) :=
  match configDocument text.toList with
  | .ok definition => definition? definition
  | .error _ => none

def loader (readText : Path → Option String) : ConfigLoader Replacements := fun path =>
  match readText path with
  | none => .error (.load path "cannot read")
  | some text =>
    match ofConfigText text with
    | none => .error (.load path "cannot parse")
    | some config => .ok config

def sourceMap (filename : Path) : Json :=
  .object [("sources", .array [.string filename.toString]), Compile.mapVersion]

def preprocess (source : String) (filename : Path) (rs : Replacements) :
    Except String Worker.Response :=
  (rs.apply source).map fun code => ⟨code, some (sourceMap filename)⟩

end Replacements
end SvelteTransform
