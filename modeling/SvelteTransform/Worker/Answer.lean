import SvelteTransform.Config.Basic
import SvelteTransform.Worker.Request
import SvelteTransform.Worker.Response

/-! The worker's side: load the config, preprocess, write one line. What user code logs goes into
the same stream when the request asks for it, and nowhere otherwise. -/
namespace SvelteTransform.Worker
open Text (Bytes utf8)

structure Writer where
  room : Option Nat
  written : Bytes
  flushes : Nat
  refusal : String
  deriving DecidableEq, Repr

namespace Writer

def diskFull : String := "disk full"

def unlimited : Writer := ⟨none, [], 0, diskFull⟩
def limited (room : Nat) (refusal : String := diskFull) : Writer := ⟨some room, [], 0, refusal⟩

/-- What fits is kept also when not all of it fits. -/
def write (w : Writer) (bytes : Bytes) : Except String Unit × Writer :=
  match w.room with
  | none => (.ok (), { w with written := w.written ++ bytes })
  | some room =>
    let left : Writer := { w with
      room := some (room - bytes.length)
      written := w.written ++ bytes.take room }
    (if bytes.length ≤ room then .ok () else .error w.refusal, left)

def flush (w : Writer) : Writer := { w with flushes := w.flushes + 1 }

def writeAll (w : Writer) : List Bytes → Except String Unit × Writer
  | [] => (.ok (), w)
  | bytes :: rest =>
    match w.write bytes with
    | (.ok (), w) => w.writeAll rest
    | refused => refused

end Writer

/-- Preprocessing as user code does it: it logs, giving up as soon as its console refuses, and
then fails with a message or gives a response. -/
structure Preprocessor (Definition : Type) where
  logged : String → Path → Definition → List String
  result : String → Path → Definition → Except String Response
  interrupted : String → Path → Definition → (refusal : String) → String :=
    fun _ _ _ refusal => refusal

inductive AnswerError where
  | request (failure : Failure)
  | config (error : ConfigError)
  | preprocess (message : String)
  | write (message : String)
  deriving DecidableEq, Repr

def AnswerError.message : AnswerError → String
  | .request failure => failure.message
  | .config error => error.message
  | .preprocess message => s!"preprocess failed: {message}"
  | .write message => s!"failed to write preprocess result: {message}"

variable {Definition : Type} [Inhabited Definition]

def preprocess (p : Preprocessor Definition) (r : Request) (definition : Definition)
    (out : Writer) : Except String Response × Writer :=
  let result := p.result r.source r.filename definition
  if r.showLog then
    match out.writeAll ((p.logged r.source r.filename definition).map (utf8 ·.toList)) with
    | (.ok (), out) => (result, out)
    | (.error refusal, out) =>
      (.error (p.interrupted r.source r.filename definition refusal), out)
  else (result, out)

def respond (response : Response) (out : Writer) : Except String Unit × Writer :=
  match out.writeAll [utf8 response.line, utf8 ['\n']] with
  | (.ok (), out) => (.ok (), out.flush)
  | refused => refused

def answer (r : Request) (load : ConfigLoader Definition) (p : Preprocessor Definition)
    (out : Writer) : Except AnswerError Unit × Writer :=
  match load r.config with
  | .error error => (.error (.config error), out)
  | .ok config =>
    match preprocess p r config.definition out with
    | (.error message, out) => (.error (.preprocess message), out)
    | (.ok response, out) =>
      match respond response out with
      | (.error message, out) => (.error (.write message), out)
      | (.ok (), out) => (.ok (), out)

def answerFrom (env : Environment) (load : ConfigLoader Definition)
    (p : Preprocessor Definition) (out : Writer) : Except AnswerError Unit × Writer :=
  match Request.ofEnvironment env with
  | .error failure => (.error (.request failure), out)
  | .ok r => answer r load p out

end SvelteTransform.Worker
