/-! Slash-separated paths as they are spelled. Nothing here touches a file: `.` and repeated
slashes are skipped when a path is taken apart but stay in its text, `..` is a component like
any other, and two spellings are the same path when their components agree. -/
namespace SvelteTransform

structure Path where
  spelling : List Char
  deriving DecidableEq, Repr, Inhabited

namespace Path

def ofString (text : String) : Path := ⟨text.toList⟩
def toString (p : Path) : String := String.ofList p.spelling

instance : ToString Path := ⟨toString⟩

abbrev Segment := List Char

def cutAt (separator : Char) : List Char → List Segment
  | [] => [[]]
  | c :: rest =>
    if c = separator then [] :: cutAt separator rest
    else match cutAt separator rest with
      | [] => [[c]]
      | segment :: more => (c :: segment) :: more

def cut : List Char → List Segment := cutAt '/'

def glue : List Segment → List Char
  | [] => []
  | [segment] => segment
  | segment :: more => segment ++ '/' :: glue more

def isVacuous (s : Segment) : Bool := s = [] || s = ['.']

inductive Start where
  | root
  | here
  | bare
  deriving DecidableEq, Repr

def Start.spelling : Start → List Char
  | .root => ['/']
  | .here => ['.']
  | .bare => []

def split (p : Path) : Start × List Segment :=
  match p.spelling with
  | '/' :: rest => (.root, cut rest)
  | ['.'] => (.here, [])
  | '.' :: '/' :: rest => (.here, cut ('/' :: rest))
  | text => (.bare, cut text)

inductive Component where
  | root
  | here
  | above
  | named (name : Segment)
  deriving DecidableEq, Repr

def Component.ofSegment (s : Segment) : Component :=
  if s = ['.', '.'] then .above else .named s

def Component.spelling : Component → List Char
  | .root => ['/']
  | .here => ['.']
  | .above => ['.', '.']
  | .named name => name

def components (p : Path) : List Component :=
  let (start, segments) := p.split
  let opening := match start with
    | .root => [Component.root]
    | .here => [Component.here]
    | .bare => []
  opening ++ (segments.filter (!isVacuous ·)).map Component.ofSegment

def same (p q : Path) : Bool := p.components = q.components

def isAbsolute (p : Path) : Bool := p.spelling.head? = some '/'
def isRelative (p : Path) : Bool := !p.isAbsolute

def fileName (p : Path) : Option Segment :=
  match p.components.getLast? with
  | some (.named name) => some name
  | _ => none

def lastName (p : Path) : List Char := p.fileName.getD p.spelling

def dropVacuous (segments : List Segment) : List Segment :=
  (segments.reverse.dropWhile isVacuous).reverse

/-- Drops the last component, with the separators before it. The root and the empty path have
no parent; the parent of a lone `.` is the empty path. -/
def parent (p : Path) : Option Path :=
  let (start, segments) := p.split
  match dropVacuous segments with
  | [] => if start = .here then some ⟨[]⟩ else none
  | solid => some ⟨start.spelling ++ glue (dropVacuous solid.dropLast)⟩

def join (p q : Path) : Path :=
  if q.isAbsolute then q
  else if p.spelling = [] || p.spelling.getLast? = some '/' then ⟨p.spelling ++ q.spelling⟩
  else ⟨p.spelling ++ '/' :: q.spelling⟩

def extend (p : Path) (components : List Component) : Path :=
  components.foldl (fun p c => p.join ⟨c.spelling⟩) p

def within (p directory : Path) : Path :=
  if p.isAbsolute then p else directory.extend (p.components.dropWhile (· = .here))

def ancestorsWithin : Nat → Path → List Path
  | 0, p => [p]
  | n + 1, p => match p.parent with
    | none => [p]
    | some q => p :: ancestorsWithin n q

/-- The path, its parent, and so on up to one without a parent. A parent is spelled with fewer
characters, so the length of the spelling bounds the walk. -/
def ancestors (p : Path) : List Path := ancestorsWithin p.spelling.length p

end Path
end SvelteTransform
