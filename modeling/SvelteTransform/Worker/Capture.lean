import SvelteTransform.Worker.Response

/-! What came of a worker that was started: its output read up to a limit, then its exit status,
then its response, in this order of precedence. -/
namespace SvelteTransform.Worker
open Text (Bytes)

inductive ReadEvent where
  | chunk (bytes : Bytes)
  | interrupted
  | failed (error : SystemError)
  deriving DecidableEq, Repr

inductive Capture where
  | reading (stored : Bytes)
  | overflowed
  | failed (error : SystemError)
  deriving DecidableEq, Repr

namespace Capture

def step (limit : Nat) : Capture → ReadEvent → Capture
  | .reading stored, .chunk bytes =>
    if limit < stored.length + bytes.length then .overflowed else .reading (stored ++ bytes)
  | .reading stored, .interrupted => .reading stored
  | .reading _, .failed error => .failed error
  | done, _ => done

def run (limit : Nat) (events : List ReadEvent) : Capture :=
  events.foldl (step limit) (.reading [])

def result : Capture → Except SystemError (Option Bytes)
  | .reading stored => .ok (some stored)
  | .overflowed => .ok none
  | .failed error => .error error

end Capture

def readCapped (limit : Nat) (events : List ReadEvent) : Except SystemError (Option Bytes) :=
  (Capture.run limit events).result

inductive ExitStatus where
  | exited (code : Nat)
  | killed (signal : Nat)
  deriving DecidableEq, Repr

namespace ExitStatus

def isSuccess : ExitStatus → Bool
  | .exited 0 => true
  | _ => false

def code : ExitStatus → Int
  | .exited code => code
  | .killed _ => -1

end ExitStatus

structure Finished where
  stdout : List ReadEvent
  stderr : Bytes
  status : ExitStatus
  deriving DecidableEq, Repr

def decoded (bytes : Bytes) : String := String.ofList (Text.ofUtf8Lossy bytes)

def Finished.output? (worker : Finished) (limit : Nat) : Option String :=
  match readCapped limit worker.stdout with
  | .ok (some output) => if worker.status.isSuccess then some (decoded output) else none
  | _ => none

/-- The limit comes before the exit status, and the exit status before the output. -/
def outcome (program : String) (limit : Nat) (worker : Finished) : Except Failure Response :=
  match readCapped limit worker.stdout with
  | .error error => .error (.spawn error)
  | .ok none => .error (.overflow program limit)
  | .ok (some output) =>
    if worker.status.isSuccess then Response.ofOutput (decoded output)
    else .error (.exit worker.status.code (decoded worker.stderr))

end SvelteTransform.Worker
