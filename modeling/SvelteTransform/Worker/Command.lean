import SvelteTransform.Path

/-! The program that is started for a request. -/
namespace SvelteTransform.Worker

structure Command where
  program : String
  arguments : List String
  directory : Option Path
  deriving DecidableEq, Repr

namespace Command

def ofProgram (program : String) : Command := ⟨program, [], none⟩

def argument (c : Command) (text : String) : Command :=
  { c with arguments := c.arguments ++ [text] }

def inDirectory (c : Command) (directory : Path) : Command :=
  { c with directory := some directory }

/-- The worker script under node. Whatever goes wrong in it ends the process, so a caller that
waits for it always gets an answer. -/
def node (node script : Path) : Command :=
  (((ofProgram node.toString).argument "--unhandled-rejections=strict").argument
    "--abort-on-uncaught-exception").argument script.toString

end Command
end SvelteTransform.Worker
