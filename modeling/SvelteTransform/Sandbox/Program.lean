import SvelteTransform.Sandbox.Mask
import SvelteTransform.Sandbox.Time

/-! Programs: what a name or a path starts. A text file that begins with `#!` is run by the
program named there. -/
namespace SvelteTransform.Sandbox

structure Process where
  here : Inode
  environment : List (Octets × Octets)
  arguments : List Octets
  descriptors : Descriptors
  number : Nat
  mask : Nat := Mask.standard
  ignores : List Nat := []

namespace Program

def lineLimit : Nat := 256

def untilMark (text : Octets) : Octets := text.takeWhile (· != '\x00')

def trimmedEnd (text : Octets) : Octets := (text.reverse.dropWhile Octets.isBlank).reverse

def nameAndArgument? (line : Octets) : Option (Octets × List Octets) :=
  let line := line.dropWhile Octets.isBlank
  let endsName (c : Char) : Bool := Octets.isBlank c || c = '\x00'
  let name := line.takeWhile (!endsName ·)
  match line.drop name.length with
  | [] | '\x00' :: _ => if line = [] then none else some (name, [])
  | rest => some (name, [untilMark (rest.dropWhile Octets.isBlank)])

def interpreter? (content : Octets) : Option (Octets × List Octets) :=
  match content with
  | '#' :: '!' :: rest =>
    let seen := rest.take (lineLimit - 2)
    let seen := seen ++ List.replicate (lineLimit - 2 - seen.length) '\x00'
    let line := seen.takeWhile fun c => c != '\n' && c != '\x00'
    if seen[line.length]? = some '\n' then nameAndArgument? (trimmedEnd line)
    else
      let start := seen.dropWhile Octets.isBlank
      if start.any fun c => Octets.isBlank c || c = '\x00' then
        nameAndArgument? (trimmedEnd seen.dropLast)
      else none
  | _ => none

def load (files : Files) (here : Inode) :
    (depth : Nat) → Octets → List Octets → Except SystemError (Tool × List Octets)
  | 0, _, _ => .error .linkLoop
  | depth + 1, program, arguments => do
    match ← files.find here (pathOf program) with
    | .absent _ => throw .notFound
    | .node _ (.tool tool) => return (tool, arguments)
    | .node inode (.file content) =>
      unless files.isExecutable inode do throw .denied
      match interpreter? (Octets.ofBytes content) with
      | none => throw .badFormat
      | some (interpreter, extra) =>
        load files here depth interpreter (interpreter :: extra ++ program :: arguments.tail)
    | .node _ _ => throw .denied

def depthLimit : Nat := 6

def defaultPath : Octets := "/bin:/usr/bin".toList

def inDirectory (directory name : Octets) : Octets :=
  if directory = [] then name else directory ++ '/' :: name

def search (files : Files) (here : Inode) (arguments : List Octets) (name : Octets)
    (failure : SystemError) : List Octets → Except SystemError (Tool × List Octets)
  | [] => .error failure
  | directory :: rest =>
    match load files here depthLimit (inDirectory directory name) arguments with
    | .ok found => .ok found
    | .error .denied => search files here arguments name .denied rest
    | .error .notFound => search files here arguments name
        (if failure = .denied then .denied else .notFound) rest
    | .error .notDirectory => search files here arguments name
        (if failure = .denied then .denied else .notDirectory) rest
    | .error other => .error other

def find (files : Files) (here : Inode) (searchPath : Option Octets)
    (arguments : List Octets) : Except SystemError (Tool × List Octets) :=
  let name := arguments.headD []
  if name = [] then .error .notFound
  else if name.contains '/' then load files here depthLimit name arguments
  else search files here arguments name .notFound
    (Path.cutAt ':' (searchPath.getD defaultPath))

def asScript (files : Files) (here : Inode) (searchPath : Option Octets)
    (arguments : List Octets) : List Octets :=
  let name := arguments.headD []
  let paths := if name.contains '/' then [name]
    else (Path.cutAt ':' (searchPath.getD defaultPath)).map (inDirectory · name)
  let path := (paths.find? fun path => files.runs here (pathOf path)).getD name
  "/bin/sh".toList :: path :: arguments.tail

end Program
end SvelteTransform.Sandbox
