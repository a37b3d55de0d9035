import SvelteTransform.Sandbox.Octets

/-! Scripts of the shell: words as pieces with their quoting noted, and commands built from
them. A script inside a word is a command itself. -/
namespace SvelteTransform.Sandbox.Shell

inductive RedirectKind where
  | read
  | write
  | overwrite
  | append
  | readWrite
  | copy
  | document (number : Nat)
  | line
  | both (appends : Bool)
  deriving DecidableEq, Repr

inductive Asking where
  | value
  | indirect
  | count
  | keys
  | names
  deriving DecidableEq, Repr

inductive BranchEnd where
  | done
  | through
  | again
  deriving DecidableEq, Repr

mutual
inductive Piece where
  | text (text : Octets) (quoted : Bool)
  | parameter (name operator : Octets) (argument : List Piece) (quoted : Bool)
  | faulty
  | output (script : Command) (quoted : Bool)
  | number (expression : List Piece) (quoted : Bool)
  | reference (asking : Asking) (name : Octets) (subscript : List (List Piece))
      (operator : Octets) (arguments : List (List Piece)) (text : Octets) (quoted : Bool)
  | unknown (text : Octets) (isWhole : Bool)
  | assignment (name : Octets) (subscript : List (List Piece)) (appends : Bool)
      (value : List Piece)
  | list (items : List (List Piece))
  | process (writes : Bool) (script : Command)

inductive Test where
  | unary (operator : Octets) (operand : List Piece)
  | binary (operator : Octets) (left right : List Piece)
  | negated (test : Test)
  | both (first second : Test)
  | either (first second : Test)

inductive Command where
  | nothing
  | simple (line : Nat) (assignments : List (Octets × List Piece)) (words : List (List Piece))
      (redirects : List (Nat × RedirectKind × List Piece))
  | pipe (left right : Command)
  | negated (command : Command)
  | both (first second : Command)
  | either (first second : Command)
  | sequence (first second : Command)
  | background (text : Octets) (command : Command)
  | branch (condition yes no : Command)
  | loop (wanted : Bool) (condition body : Command)
  | forEach (line : Nat) (name : Octets) (words : List (List Piece)) (body : Command)
  | pick (line : Nat) (name : Octets) (words : List (List Piece)) (body : Command)
  | choose (line : Nat) (word : List Piece)
      (branches : List (List (List Piece) × Command × BranchEnd))
  | apart (line : Nat) (body : Command)
  | redirected (line : Nat) (body : Command) (redirects : List (Nat × RedirectKind × List Piece))
  | define (name : Octets) (body : Command)
  | judge (line : Nat) (test : Test)
  | calculate (line : Nat) (expression : List Piece)
  | counting (line : Nat) (start condition step : List Piece) (body : Command)
  | timed (command : Command)
end

def Command.stages : Command → List Command
  | .pipe left right => left.stages ++ [right]
  | command => [command]

instance : Inhabited Piece := ⟨.faulty⟩
instance : Inhabited Test := ⟨.unary [] []⟩
instance : Inhabited Command := ⟨.nothing⟩

abbrev Word := List Piece

abbrev Redirect := Nat × RedirectKind × Word

abbrev Branch := List Word × Command × BranchEnd

structure ScriptError where
  line : Nat
  message : String
  more : Option String := none
  shown : Option Octets := none
  deriving DecidableEq, Repr

end SvelteTransform.Sandbox.Shell
