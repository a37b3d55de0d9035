import SvelteTransform.Worker.Script

/-! Finding node: the first of the directories on the search path that has it. A directory may be
given from the home directory, as `~`, or from the working directory; what is found is told in
full. -/
namespace SvelteTransform.Worker.Node

def programName : Path := .ofString "node"

def fromHome (home : Option Path) (directory : Path) : Path :=
  match directory.components, home with
  | .named ['~'] :: rest, some home => home.extend rest
  | _, _ => directory

def candidates (env : Environment) (account : Option Path) : List Path :=
  match env "PATH" with
  | none => []
  | some searchPath => (Path.cutAt ':' searchPath.toList).map fun directory =>
      (fromHome (Script.homeDirectory env account) ⟨directory⟩).join programName

def located (here : Option Path) (found : Path) : Path :=
  match here, found.components.head? with
  | _, some (.named ['~']) | none, _ => found
  | some here, _ => found.within here

end SvelteTransform.Worker.Node
