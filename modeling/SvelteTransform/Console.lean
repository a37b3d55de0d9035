/-! Channels for what a transformation reports, and a transcript of them. A terminal shows errors on
one stream and all else on the other, each line ended. -/
namespace SvelteTransform

inductive Channel where
  | log
  | debug
  | error
  deriving DecidableEq, Repr

structure Line where
  channel : Channel
  message : String
  deriving DecidableEq, Repr

structure Transcript where
  lines : List Line
  deriving DecidableEq, Repr, Inhabited

namespace Transcript

def empty : Transcript := ⟨[]⟩

def report (t : Transcript) (line : Line) : Transcript := ⟨t.lines ++ [line]⟩

def reportAll (t : Transcript) (lines : List Line) : Transcript := lines.foldl report t

def channel (t : Transcript) (c : Channel) : List String :=
  (t.lines.filter (·.channel = c)).map (·.message)

end Transcript

structure Terminal where
  stdout : String
  stderr : String
  deriving DecidableEq, Repr

def Terminal.ofLines (lines : List Line) : Terminal :=
  let shown (onError : Bool) : String :=
    String.join <| (lines.filter fun line => (line.channel = .error : Bool) = onError).map
      (·.message ++ "\n")
  ⟨shown false, shown true⟩

end SvelteTransform
