import SvelteTransform.Sandbox.Shell.Builtin

/-! What a command's words call: something of the shell's own, a function or a program. -/
namespace SvelteTransform.Sandbox.Shell

structure Called where
  arguments : List Octets
  direct : Bool := false
  standard : Bool := false
  describes : Option Bool := none

namespace Called

def options : List Octets → Called → Called
  | ['-', '-'] :: rest, c => { c with arguments := rest }
  | ['-', 'p'] :: rest, c => options rest { c with standard := true }
  | ['-', 'v'] :: rest, c => options rest { c with describes := some false }
  | ['-', 'V'] :: rest, c => options rest { c with describes := some true }
  | rest, c => { c with arguments := rest }

def unwrapped : (fuel : Nat) → Called → Called
  | 0, c => c
  | fuel + 1, c =>
    match c.arguments with
    | name :: rest =>
      if name != "command".toList || c.describes.isSome then c
      else unwrapped fuel (options rest { c with direct := true })
    | [] => c

def ofArguments (arguments : List Octets) : Called :=
  unwrapped (arguments.length + 1) { arguments }

def name (c : Called) : Octets := c.arguments.headD []

def replaces (c : Called) : Bool := c.name = "exec".toList && 1 < c.arguments.length

def redirects (c : Called) : Bool := c.name = "exec".toList && c.arguments.length = 1

end Called

inductive Kind where
  | function (body : Command)
  | special
  | regular
  | program

def kindOf (s : State) (c : Called) : Kind :=
  let text := String.ofList c.name
  if c.describes.isSome then .regular
  else if Script.specialCommands.contains text then if c.direct then .regular else .special
  else match if c.direct then none else s.functions.lookup c.name with
    | some body => .function body
    | none => if isBuiltin text then .regular else .program

def takesAssignments (name : Octets) : Bool :=
  ["export", "readonly", "local"].contains (String.ofList name)

end SvelteTransform.Sandbox.Shell
