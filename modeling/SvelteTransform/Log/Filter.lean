import SvelteTransform.Log.Basic
import SvelteTransform.Search.Parser
import SvelteTransform.Search.Spans

/-! Which records are wanted. A specification lists targets with the finest level of each, and
after a slash an expression that the message has to match. -/
namespace SvelteTransform.Log

structure Directive where
  target : Option String
  finest : Option Level
  deriving DecidableEq, Repr

namespace Directive

def applies (d : Directive) (r : Record) : Bool := d.target.all fun name => name.isPrefixOf r.target

def admits (d : Directive) (r : Record) : Bool :=
  d.finest.any fun finest => r.level.rank ≤ finest.rank

def width (d : Directive) : Nat := (d.target.map String.utf8ByteSize).getD 0

end Directive

/-- Directives in order of width, so that the last one that applies decides. -/
structure Filter where
  directives : List Directive
  pattern : Option Search.Expression := none

def Filter.wants (f : Filter) (r : Record) : Bool :=
  (f.directives.reverse.find? (·.applies r)).any (·.admits r) &&
  f.pattern.all (·.isFound r.message)

def level? (name : String) : Option (Option Level) :=
  let name := name.toUpper
  if name = "OFF" then some none
  else ([.error, .warn, .info, .debug, .trace].find? fun l : Level => l.name = name).map some

def Directive.ofText (text : List Char) : Except String Directive :=
  let isCut (c : Char) : Bool := c = '='
  match text.splitOnP isCut with
  | [target] =>
    let target := String.ofList target
    match level? target with
    | some finest => .ok ⟨none, finest⟩
    | none => .ok ⟨some target, some .trace⟩
  | [target, level] =>
    let level := String.ofList (Text.trim level)
    let target := String.ofList target
    if level = "" then .ok ⟨some target, some .trace⟩
    else match level? level with
      | some finest => .ok ⟨some target, finest⟩
      | none => .error s!"warning: invalid logging spec '{level}', ignoring it"
  | _ => .error s!"warning: invalid logging spec '{String.ofList text}', ignoring it"

def insert (d : Directive) : List Directive → List Directive
  | [] => [d]
  | other :: rest => if other.target = d.target then d :: rest else other :: insert d rest

def directivesOf (text : List Char) : List Directive × List String :=
  let isComma (c : Char) : Bool := c = ','
  let items := ((text.splitOnP isComma).map Text.trim).filter (· != [])
  items.foldl (fun (directives, complaints) item => match Directive.ofText item with
    | .ok directive => (insert directive directives, complaints)
    | .error complaint => (directives, complaints ++ [complaint])) ([], [])

def Filter.ofDirectives (directives : List Directive) (pattern : Option Search.Expression) :
    Filter :=
  let directives := if directives.isEmpty then [⟨none, some .error⟩] else directives
  ⟨directives.mergeSort fun a b => a.width ≤ b.width, pattern⟩

def Filter.ofText (specification : String) : Filter × List String :=
  let isSlash (c : Char) : Bool := c = '/'
  match specification.toList.splitOnP isSlash with
  | [list] =>
    let (directives, complaints) := directivesOf list
    (.ofDirectives directives none, complaints)
  | [list, pattern] =>
    let (directives, complaints) := directivesOf list
    match Search.Expression.ofText? (String.ofList pattern) with
    | some pattern => (.ofDirectives directives (some pattern), complaints)
    | none => (.ofDirectives directives none,
        complaints ++ [s!"warning: invalid regex filter - {String.ofList pattern}"])
  | _ => (.ofDirectives [] none,
      [s!"warning: invalid logging spec '{specification}', ignoring it (too many '/'s)"])

end SvelteTransform.Log
