import SvelteTransform.Sandbox.Regex

/-! Programs of patterns and actions. -/
namespace SvelteTransform.Sandbox.Awk

inductive Arithmetic where
  | add
  | subtract
  | multiply
  | divide
  | remainder
  | power
  deriving DecidableEq, Repr

inductive Comparison where
  | less
  | lessOrEqual
  | equal
  | different
  | greaterOrEqual
  | greater
  deriving DecidableEq, Repr

inductive Builtin where
  | length
  | substr
  | index
  | split
  | sub
  | gsub
  | match_
  | sprintf
  | sin
  | cos
  | atan2
  | exp
  | log
  | sqrt
  | int
  | rand
  | srand
  | toLower
  | toUpper
  | system
  | close
  | flush
  deriving DecidableEq, Repr

inductive Expr where
  | number (x : Float)
  | text (t : Octets)
  | regex (r : Regex)
  | scalar (name : Octets)
  | element (array : Octets) (subscripts : List Expr)
  | field (number : Expr)
  | grouped (inside : Expr)
  | assign (target value : Expr)
  | update (target : Expr) (how : Arithmetic) (value : Expr)
  | step (target : Expr) (up first : Bool)
  | choice (condition yes no : Expr)
  | either (first second : Expr)
  | both (first second : Expr)
  | not_ (inside : Expr)
  | holds (array : Octets) (subscripts : List Expr)
  | matches_ (text pattern : Expr)
  | compare (how : Comparison) (left right : Expr)
  | join (left right : Expr)
  | arithmetic (how : Arithmetic) (left right : Expr)
  | negative (inside : Expr)
  | positive (inside : Expr)
  | call (function : Octets) (arguments : List Expr)
  | builtin (function : Builtin) (arguments : List Expr)
  | read (target : Option Expr)
  | readFile (target : Option Expr) (file : Expr)
  | readCommand (target : Option Expr) (command : Expr)
  deriving Inhabited

namespace Expr

def isPlace : Expr → Bool
  | .scalar _ | .element .. | .field _ => true
  | .grouped (.field _) => true
  | _ => false

def regex? : Expr → Option Regex
  | .regex r => some r
  | .grouped inside => inside.regex?
  | _ => none

def name? : Expr → Option Octets
  | .scalar name => some name
  | _ => none

end Expr

inductive Goal where
  | file (name : Expr) (appends : Bool)
  | command (text : Expr)

inductive Statement where
  | nothing
  | expression (e : Expr)
  | print (items : List Expr) (goal : Option Goal)
  | printf (items : List Expr) (goal : Option Goal)
  | branch (condition : Expr) (yes no : Statement)
  | loop (condition : Expr) (body step : Statement)
  | loopAfter (body : Statement) (condition : Expr)
  | forEach (name array : Octets) (body : Statement)
  | sequence (first second : Statement)
  | next
  | nextFile
  | exit (status : Option Expr)
  | giveBack (value : Option Expr)
  | leave
  | again
  | delete (array : Octets) (subscripts : List Expr)
  | clear (array : Octets)
  deriving Inhabited

inductive Pattern where
  | always
  | holds (condition : Expr)
  | between (number : Nat) (first last : Expr)

structure Rule where
  pattern : Pattern
  action : Option Statement

structure Function where
  name : Octets
  parameters : List (Octets × Bool)
  body : Statement

structure Program where
  beginning : List Statement := []
  rules : List Rule := []
  ending : List Statement := []
  functions : List Function := []
  arrays : List Octets := []

end SvelteTransform.Sandbox.Awk
