import SvelteTransform.Sandbox.Tools.Basic

/-! One text split into arguments, for programs that are named with all their arguments in the first
line of a script. Quotation marks keep blanks, a backslash begins a sign, a dollar sign a variable in
braces, and what follows a lone `#` is a comment. -/
namespace SvelteTransform.Sandbox.Tools.Splitting

inductive Place where
  | between
  | bare
  | quoted (mark : Char)
  deriving DecidableEq

structure Reader where
  place : Place := .between
  current : Octets := []
  done : List Octets := []

namespace Reader

def close (r : Reader) : Reader :=
  match r.place with
  | .between => r
  | _ => { place := .between, done := r.current.reverse :: r.done }

def put (r : Reader) (text : Octets) : Reader :=
  { r with
    place := if r.place = .between then .bare else r.place
    current := text.reverse ++ r.current }

def arguments (r : Reader) : List Octets := r.close.done.reverse

end Reader

def sign? (c : Char) : Option Char :=
  match c with
  | 'f' => some '\x0c'
  | 'n' => some '\n'
  | 'r' => some '\r'
  | 't' => some '\t'
  | 'v' => some '\x0b'
  | '#' | '$' | '_' | '"' | '\'' | '\\' => some c
  | _ => none

def named? (rest : Octets) : Option (Octets × Octets) :=
  match rest with
  | '\x7b' :: rest =>
    let name := rest.takeWhile (· != '\x7d')
    if Octets.isName name && (rest.drop name.length).head? = some '\x7d' then
      some (name, rest.drop (name.length + 1))
    else none
  | _ => none

def read (value : Octets → Option Octets) : (fuel : Nat) → Reader → Octets → Except Octets Reader
  | 0, r, _ => .ok r
  | _, { place := .quoted _, .. }, [] => .error (Octets.say "no terminating quote in -S string")
  | _, r, [] => .ok r
  | fuel + 1, r, c :: rest =>
    let goOn (r : Reader) (rest : Octets) := read value fuel r rest
    let isBlank := Octets.isSpace c
    match c, r.place with
    | '\'', .quoted '\'' | '"', .quoted '"' => goOn { r with place := .bare } rest
    | '\'', .between | '\'', .bare | '"', .between | '"', .bare =>
      goOn { r with place := .quoted c } rest
    | '#', .between => .ok r
    | '\\', place =>
      match rest with
      | [] => .error (Octets.say "invalid backslash at end of string in -S")
      | d :: more =>
        if place = .quoted '\'' then
          if d = '\\' || d = '\'' then goOn (r.put [d]) more else goOn (r.put ['\\']) rest
        else if d = '_' && place != .quoted '"' then goOn r.close more
        else if d = 'c' then
          if place = .quoted '"' then
            .error (Octets.say "'\\c' must not appear in double-quoted -S string")
          else .ok r
        else match sign? d with
          | some '_' => goOn (r.put [' ']) more
          | some sign => goOn (r.put [sign]) more
          | none => .error (Octets.say "invalid sequence '\\" ++ d :: Octets.say "' in -S")
    | '$', place =>
      if place = .quoted '\'' then goOn (r.put [c]) rest
      else match named? rest with
        | some (name, rest) =>
          match value name with
          | some text => goOn (r.put text) rest
          | none => goOn r rest
        | none =>
          .error (Octets.say "only $\x7bVARNAME\x7d expansion is supported, error at: " ++ c :: rest)
    | c, .quoted _ => goOn (r.put [c]) rest
    | c, _ => if isBlank then goOn r.close rest else goOn (r.put [c]) rest

def split (value : Octets → Option Octets) (text : Octets) : Except Octets (List Octets) := do
  return (← read value (text.length + 1) {} text).arguments

def spread (value : Octets → Option Octets) : (fuel : Nat) → List Octets →
    Except Octets (List Octets)
  | 0, arguments => .ok arguments
  | _, [] => .ok []
  | fuel + 1, argument :: rest => do
    let inPlace (text : Octets) (before : List Octets) (rest : List Octets) := do
      return before ++ (← spread value fuel ((← split value text) ++ rest))
    let long := "--split-string".toList
    match argument with
    | ['-'] | ['-', '-'] => return argument :: rest
    | '-' :: letters =>
      if argument = long then
        match rest with
        | text :: rest => inPlace text [] rest
        | [] => return [argument]
      else if (long ++ ['=']).isPrefixOf argument then inPlace (argument.drop (long.length + 1)) [] rest
      else
        let front := letters.takeWhile fun c => c = 'i' || c = '0' || c = 'v'
        let kept := if front = [] then [] else ['-' :: front]
        match letters.drop front.length, rest with
        | ['S'], text :: rest => inPlace text kept rest
        | 'S' :: c :: text, rest => inPlace (c :: text) kept rest
        | ['u'], value_ :: rest | ['C'], value_ :: rest =>
          return argument :: value_ :: (← spread value fuel rest)
        | _, rest => return argument :: (← spread value fuel rest)
    | _ => return argument :: rest

end SvelteTransform.Sandbox.Tools.Splitting
