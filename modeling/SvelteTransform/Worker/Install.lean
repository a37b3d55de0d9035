import SvelteTransform.Log.Basic
import SvelteTransform.Worker.Failure
import SvelteTransform.Worker.Script

/-! Installing the worker script. A caller looks first without the lock, so the usual case costs
one read; if it has to write it takes the lock and looks again. `Step` lets any number of callers
take turns at any stage, write in pieces and fail at any point. -/
namespace SvelteTransform.Worker.Install
open Text (Bytes)

abbrev Outcome := Except InstallError Unit

inductive Stage where
  | check
  | acquire
  | recheck
  | clear
  | append (rest : Bytes)
  | release (outcome : Outcome)
  | finished (outcome : Outcome)

namespace Stage

def afterCheck (current : Bool) : Stage := if current then .finished (.ok ()) else .acquire
def afterRecheck (current : Bool) : Stage := if current then .release (.ok ()) else .clear

def holdsLock : Stage → Bool
  | .recheck | .clear | .append _ | .release _ => true
  | _ => false

def left : Stage → Nat
  | .check => 6
  | .acquire => 5
  | .recheck => 4
  | .clear => 3
  | .append _ => 2
  | .release _ => 1
  | .finished _ => 0

abbrev Next (stage : Stage) := { next : Stage // next.left ≤ stage.left - 1 }

theorem checkLeft (current : Bool) : (afterCheck current).left ≤ 5 := by
  cases current <;> decide

theorem recheckLeft (current : Bool) : (afterRecheck current).left ≤ 3 := by
  cases current <;> decide

end Stage

structure Files (m : Type → Type) where
  read : Path → m (Except SystemError Bytes)
  openLock : Path → m (Except SystemError Unit)
  takeLock : Path → m (Except SystemError Unit)
  dropLock : Path → m Unit
  clear : Path → m (Except SystemError Unit)
  append : Path → Bytes → m (Except SystemError Unit)

section
variable {m : Type → Type} [Monad m]

def isCurrent : Except SystemError Bytes → Bool
  | .ok found => found = Script.bytes
  | .error _ => false

def written : Except SystemError Unit → Outcome := Except.mapError InstallError.write

def installingRecord (script : Path) : Log.Record :=
  ⟨.debug, "preprocess_runner::runner", s!"installing preprocess worker script at {script}"⟩

/-- One stage of a caller that is alone; it writes in one piece. -/
def perform (report : Log.Record → m Unit) (files : Files m) (directory : Path) :
    (stage : Stage) → m stage.Next
  | .check => do
    let found ← files.read (directory.join Script.fileName)
    return ⟨.afterCheck (isCurrent found), Stage.checkLeft _⟩
  | .acquire => do
    let lock := directory.join Script.lockName
    match ← files.openLock lock with
    | .error error => return ⟨.finished (.error (.openLock lock error)), Nat.zero_le _⟩
    | .ok () => match ← files.takeLock lock with
      | .error error => return ⟨.finished (.error (.takeLock lock error)), Nat.zero_le _⟩
      | .ok () => return ⟨.recheck, Nat.le_refl _⟩
  | .recheck => do
    let found ← files.read (directory.join Script.fileName)
    return ⟨.afterRecheck (isCurrent found), Stage.recheckLeft _⟩
  | .clear => do
    let script := directory.join Script.fileName
    report (installingRecord script)
    match ← files.clear script with
    | .ok () => return ⟨.append Script.bytes, Nat.le_refl _⟩
    | failed => return ⟨.release (written failed), Nat.le_succ _⟩
  | .append rest => do
    let appended ← files.append (directory.join Script.fileName) rest
    return ⟨.release (written appended), Nat.le_refl _⟩
  | .release outcome => do
    files.dropLock (directory.join Script.lockName)
    return ⟨.finished outcome, Nat.le_refl _⟩
  | .finished outcome => return ⟨.finished outcome, Nat.le_refl _⟩

def performAll (report : Log.Record → m Unit) (files : Files m) (directory : Path) :
    (n : Nat) → (stage : Stage) → stage.left ≤ n → m Outcome
  | _, .finished outcome, _ => return outcome
  | n + 1, stage, enough => do
    let next ← perform report files directory stage
    performAll report files directory n next.1 (Nat.le_trans next.2 (Nat.sub_le_of_le_add enough))

def install (report : Log.Record → m Unit) (files : Files m) (directory : Path) : m Outcome :=
  performAll report files directory 6 .check (Nat.le_refl 6)

end

structure Shared where
  script : Option Bytes
  holder : Option Nat
  stage : Nat → Stage

namespace Shared

def isCurrent (s : Shared) : Bool := s.script = some Script.bytes

def move (s : Shared) (caller : Nat) (stage : Stage) : Shared :=
  { s with stage := fun c => if c = caller then stage else s.stage c }

end Shared

inductive Step : Shared → Shared → Prop where
  | check {s caller} (at_ : s.stage caller = .check) :
      Step s (s.move caller (.afterCheck s.isCurrent))
  | acquire {s caller} (at_ : s.stage caller = .acquire) (free : s.holder = none) :
      Step s { s.move caller .recheck with holder := some caller }
  | refused {s caller error} (at_ : s.stage caller = .acquire) :
      Step s (s.move caller (.finished (.error error)))
  | recheck {s caller} (at_ : s.stage caller = .recheck) :
      Step s (s.move caller (.afterRecheck s.isCurrent))
  | clear {s caller} (at_ : s.stage caller = .clear) :
      Step s { s.move caller (.append Script.bytes) with script := some [] }
  | append {s caller piece rest} (at_ : s.stage caller = .append (piece ++ rest)) :
      Step s { s.move caller (.append rest) with script := some (s.script.getD [] ++ piece) }
  | failed {s caller error}
      (at_ : s.stage caller = .clear ∨ ∃ rest, s.stage caller = .append rest) :
      Step s (s.move caller (.release (.error error)))
  | complete {s caller} (at_ : s.stage caller = .append []) :
      Step s (s.move caller (.release (.ok ())))
  | release {s caller outcome} (at_ : s.stage caller = .release outcome) :
      Step s { s.move caller (.finished outcome) with holder := none }

inductive Steps : Shared → Shared → Prop where
  | none {s} : Steps s s
  | more {s t u} (first : Steps s t) (last : Step t u) : Steps s u

end SvelteTransform.Worker.Install
