import SvelteTransform.Proofs.Text.Utf8
import SvelteTransform.Worker.Install

/-! Callers that install one worker script, however their steps are mixed. Only the one that holds
the lock changes the script, and only as long as it is not the one that is wanted; so a script that
is in place stays, and a caller is told that it is in place only when it is. -/
namespace SvelteTransform.Worker.Install
open Text (Bytes)

def Shared.fresh (script : Option Bytes) : Shared := ⟨script, none, fun _ => .check⟩

def Stage.Sound (holder : Option Nat) (script : Option Bytes) (caller : Nat) : Stage → Prop
  | .check | .acquire => True
  | .recheck => holder = some caller
  | .clear => holder = some caller ∧ script ≠ some Script.bytes
  | .append rest => holder = some caller ∧
      ∃ done, script = some done ∧ done ++ rest = Script.bytes
  | .release outcome => holder = some caller ∧ (outcome = .ok () → script = some Script.bytes)
  | .finished outcome => outcome = .ok () → script = some Script.bytes

def Shared.Sound (s : Shared) : Prop :=
  ∀ caller, (s.stage caller).Sound s.holder s.script caller

namespace Stage
variable {holder : Option Nat} {script : Option Bytes} {caller : Nat}

theorem soundHolder {stage : Stage} (sound : stage.Sound holder script caller)
    (holds : stage.holdsLock = true) : holder = some caller := by
  cases stage with
  | check | acquire | finished => cases holds
  | recheck => exact sound
  | clear | append | release => exact sound.1

theorem soundElsewhere {stage : Stage} (sound : stage.Sound holder script caller)
    (without : stage.holdsLock = false) {holder' : Option Nat} {script' : Option Bytes}
    (kept : script = some Script.bytes → script' = some Script.bytes) :
    stage.Sound holder' script' caller := by
  cases stage with
  | check | acquire => trivial
  | finished outcome => exact fun ok => kept (sound ok)
  | recheck | clear | append | release => cases without

theorem soundAfterCheck : (afterCheck (decide (script = some Script.bytes))).Sound
    holder script caller := by
  by_cases current : script = some Script.bytes
  · rw [decide_eq_true current]
    exact fun _ => current
  · rw [decide_eq_false current]
    trivial

theorem soundAfterRecheck (holds : holder = some caller) :
    (afterRecheck (decide (script = some Script.bytes))).Sound holder script caller := by
  by_cases current : script = some Script.bytes
  · rw [decide_eq_true current]
    exact ⟨holds, fun _ => current⟩
  · rw [decide_eq_false current]
    exact ⟨holds, current⟩

end Stage

namespace Shared
variable {s : Shared}

theorem moved (s : Shared) (caller : Nat) (stage : Stage) :
    (s.move caller stage).stage caller = stage := if_pos rfl

theorem unmoved (s : Shared) {caller other : Nat} (stage : Stage) (different : other ≠ caller) :
    (s.move caller stage).stage other = s.stage other := if_neg different

theorem soundFresh (script : Option Bytes) : (fresh script).Sound := fun _ => trivial

theorem soundExclusive (sound : s.Sound) {a b : Nat} (left : (s.stage a).holdsLock = true)
    (right : (s.stage b).holdsLock = true) : a = b := by
  have holdsLeft := Stage.soundHolder (sound a) left
  have holdsRight := Stage.soundHolder (sound b) right
  rw [holdsLeft] at holdsRight
  exact Option.some.inj holdsRight

theorem soundMove {caller : Nat} {stage : Stage} {holder : Option Nat} {script : Option Bytes}
    (own : stage.Sound holder script caller)
    (others : ∀ other, other ≠ caller → (s.stage other).Sound holder script other) :
    Sound { s.move caller stage with holder := holder, script := script } := by
  -- The others are at the stages they were at, so all there is to ask is what changed for them.
  intro other
  by_cases same : other = caller
  · subst same
    change ((s.move other stage).stage other).Sound holder script other
    rw [moved]
    exact own
  · change ((s.move caller stage).stage other).Sound holder script other
    rw [unmoved s stage same]
    exact others other same

theorem soundAt (sound : s.Sound) {caller : Nat} {stage : Stage}
    (at_ : s.stage caller = stage) : stage.Sound s.holder s.script caller := by
  rw [← at_]
  exact sound caller

theorem soundOthers (sound : s.Sound) {caller : Nat} {stage : Stage}
    (at_ : s.stage caller = stage) (holds : stage.holdsLock = true) {holder : Option Nat}
    {script : Option Bytes} (kept : s.script = some Script.bytes → script = some Script.bytes)
    (other : Nat) (different : other ≠ caller) : (s.stage other).Sound holder script other := by
  refine Stage.soundElsewhere (sound other) ?_ kept
  refine Bool.eq_false_iff.mpr fun both => different ?_
  rw [← at_] at holds
  exact soundExclusive sound both holds

end Shared

theorem pieceKeeps {script : Option Bytes} {written piece rest : Bytes}
    (found : script = some written) (whole : written ++ (piece ++ rest) = Script.bytes)
    (current : script = some Script.bytes) : piece = [] ∧ rest = [] := by
  rw [found] at current
  rw [← Option.some.inj current, List.append_right_eq_self] at whole
  exact List.append_eq_nil_iff.mp whole

theorem soundStep {s t : Shared} (sound : s.Sound) (step : Step s t) : t.Sound := by
  cases step with
  | @check caller at_ =>
    exact Shared.soundMove Stage.soundAfterCheck fun other _ => sound other
  | @acquire caller at_ free =>
    refine Shared.soundMove rfl fun other _ => ?_
    -- Nobody holds a lock that is free, so nobody relies on who holds it.
    refine Stage.soundElsewhere (sound other) ?_ id
    refine Bool.eq_false_iff.mpr fun holds => ?_
    have held := Stage.soundHolder (sound other) holds
    rw [free] at held
    cases held
  | refused at_ => exact Shared.soundMove nofun fun other _ => sound other
  | recheck at_ =>
    exact Shared.soundMove (Stage.soundAfterRecheck (Shared.soundAt sound at_)) fun other _ =>
      sound other
  | clear at_ =>
    have stale := Shared.soundAt sound at_
    exact Shared.soundMove ⟨stale.1, [], rfl, List.nil_append _⟩
      (Shared.soundOthers sound at_ rfl fun current => absurd current stale.2)
  | @append caller piece rest at_ =>
    obtain ⟨holds, written, found, whole⟩ := Shared.soundAt sound at_
    refine Shared.soundMove ⟨holds, written ++ piece, ?_, ?_⟩
      (Shared.soundOthers sound at_ rfl fun current => ?_)
    · rw [found]
      rfl
    · rw [List.append_assoc, whole]
    · rw [(pieceKeeps found whole current).1, List.append_nil, current, Option.getD_some]
  | @failed caller error at_ =>
    have holds : s.holder = some caller := by
      refine Stage.soundHolder (sound caller) ?_
      obtain here | ⟨rest, here⟩ := at_ <;> rw [here] <;> rfl
    exact Shared.soundMove ⟨holds, nofun⟩ fun other _ => sound other
  | complete at_ =>
    obtain ⟨holds, written, found, whole⟩ := Shared.soundAt sound at_
    rw [List.append_nil] at whole
    refine Shared.soundMove ⟨holds, fun _ => ?_⟩ fun other _ => sound other
    rw [found, whole]
  | release at_ =>
    exact Shared.soundMove (Shared.soundAt sound at_).2 (Shared.soundOthers sound at_ rfl id)

theorem soundSteps {s t : Shared} (sound : s.Sound) (steps : Steps s t) : t.Sound := by
  induction steps with
  | none => exact sound
  | more _ last ih => exact soundStep ih last

theorem currentStep {s t : Shared} (sound : s.Sound) (current : s.script = some Script.bytes)
    (step : Step s t) : t.script = some Script.bytes := by
  cases step with
  | check | acquire | refused | recheck | failed | complete | release => exact current
  | clear at_ => exact absurd current (Shared.soundAt sound at_).2
  | @append caller piece rest at_ =>
    obtain ⟨-, written, found, whole⟩ := Shared.soundAt sound at_
    change some (s.script.getD [] ++ piece) = some Script.bytes
    rw [(pieceKeeps found whole current).1, List.append_nil, current, Option.getD_some]

theorem currentSteps {s t : Shared} (sound : s.Sound) (current : s.script = some Script.bytes)
    (steps : Steps s t) : t.script = some Script.bytes := by
  induction steps with
  | none => exact current
  | more first last ih => exact currentStep (soundSteps sound first) ih last

theorem nobodyWrites {s : Shared} (sound : s.Sound) (current : s.script = some Script.bytes)
    (caller : Nat) :
    s.stage caller ≠ .clear ∧ ∀ rest, s.stage caller = .append rest → rest = [] := by
  refine ⟨fun at_ => (Shared.soundAt sound at_).2 current, fun rest at_ => ?_⟩
  obtain ⟨-, written, found, whole⟩ := Shared.soundAt sound at_
  exact (@pieceKeeps _ written [] rest found whole current).2

structure Refusals where
  openLock : Option SystemError
  takeLock : Option SystemError
  clear : Option SystemError
  append : Option (Nat × SystemError)

namespace Shared

def found (s : Shared) : Except SystemError Bytes :=
  match s.script with
  | some bytes => .ok bytes
  | none => .error .notFound

def appended (s : Shared) (bytes : Bytes) : Shared :=
  { s with script := some (s.script.getD [] ++ bytes) }

/-- The shared files as one caller finds them. A lock that is held is refused to it: nobody else
moves while a stage is performed, so waiting would not end. -/
def files (caller : Nat) (refusals : Refusals) : Files (StateM Shared) where
  read _ := return (← get).found
  openLock _ := return refusals.openLock.elim (.ok ()) .error
  takeLock _ := modifyGet fun s =>
    match refusals.takeLock, s.holder with
    | some error, _ => (.error error, s)
    | none, some _ => (.error .busy, s)
    | none, none => (.ok (), { s with holder := some caller })
  dropLock _ := modify fun s => { s with holder := none }
  clear _ := modifyGet fun s =>
    match refusals.clear with
    | some error => (.error error, s)
    | none => (.ok (), { s with script := some [] })
  append _ bytes := modifyGet fun s =>
    match refusals.append with
    | some (written, error) => (.error error, s.appended (bytes.take written))
    | none => (.ok (), s.appended bytes)

theorem moveTwice (s : Shared) (caller : Nat) (first second : Stage) :
    (s.move caller first).move caller second = s.move caller second := by
  have same : ∀ other, ((s.move caller first).move caller second).stage other =
      (s.move caller second).stage other := by
    intro other
    by_cases here : other = caller
    · rw [here, moved, moved]
    · rw [unmoved _ _ here, unmoved _ _ here, unmoved _ _ here]
  exact congrArg (Shared.mk s.script s.holder) (funext same)

theorem moveNowhere (s : Shared) (caller : Nat) : s.move caller (s.stage caller) = s := by
  have same : ∀ other, (s.move caller (s.stage caller)).stage other = s.stage other := by
    intro other
    by_cases here : other = caller
    · rw [here, moved]
    · rw [unmoved _ _ here]
  exact congrArg (Shared.mk s.script s.holder) (funext same)

theorem foundCurrent (s : Shared) : Install.isCurrent s.found = s.isCurrent := by
  obtain ⟨_ | bytes, holder, stage⟩ := s
  · exact (decide_eq_false nofun).symm
  · exact decide_eq_decide.mpr (Option.some.injEq bytes Script.bytes ▸ Iff.rfl)

end Shared

theorem stepsOn {s t u : Shared} (first : Steps s t) (last : Steps t u) : Steps s u := by
  induction last with
  | none => exact first
  | more _ step ih => exact ih.more step

theorem stepMoved {s : Shared} {caller : Nat} {first second : Stage} {holder : Option Nat}
    {script : Option Bytes} (step : Step (s.move caller first)
      { (s.move caller first).move caller second with holder := holder, script := script }) :
    Steps (s.move caller first)
      (Shared.move { s with holder := holder, script := script } caller second) := by
  rw [Shared.moveTwice] at step
  exact .more .none step

section
variable (directory : Path) (caller : Nat) (refusals : Refusals)

def performed (stage : Stage) (s : Shared) : stage.Next × Shared :=
  (perform (fun _ => pure ()) (Shared.files caller refusals) directory stage).run s

theorem performedSteps (stage : Stage) (s : Shared) :
    Steps (s.move caller stage)
      ((performed directory caller refusals stage s).2.move caller
        (performed directory caller refusals stage s).1.1) := by
  have here := s.moved caller stage
  cases stage with
  | check =>
    change Steps _ (s.move caller (.afterCheck (isCurrent s.found)))
    rw [Shared.foundCurrent]
    exact stepMoved (.check here)
  | acquire =>
    have refused : ∀ error, Steps (s.move caller .acquire)
        (s.move caller (.finished (.error error))) := fun error => stepMoved (.refused here)
    obtain ⟨openLock, takeLock, clear, append⟩ := refusals
    cases openLock with
    | some error => exact refused _
    | none =>
      cases takeLock with
      | some error => exact refused _
      | none =>
        obtain ⟨script, _ | holder, stages⟩ := s
        · exact stepMoved (.acquire here rfl)
        · exact refused _
  | recheck =>
    change Steps _ (s.move caller (.afterRecheck (isCurrent s.found)))
    rw [Shared.foundCurrent]
    exact stepMoved (.recheck here)
  | clear =>
    obtain ⟨openLock, takeLock, clear, append⟩ := refusals
    cases clear with
    | some error => exact stepMoved (.failed (.inl here))
    | none => exact stepMoved (.clear here)
  | append rest =>
    have writes : ∀ piece left, piece ++ left = rest → Steps (s.move caller (.append rest))
        ((s.appended piece).move caller (.append left)) := by
      rintro piece left rfl
      exact stepMoved (.append here)
    obtain ⟨openLock, takeLock, clear, append⟩ := refusals
    cases append with
    | some refusal =>
      obtain ⟨written, error⟩ := refusal
      have stands := Shared.moved (s.appended (rest.take written)) caller
        (.append (rest.drop written))
      exact stepsOn (writes _ _ (List.take_append_drop written rest))
        (stepMoved (.failed (.inr ⟨_, stands⟩)))
    | none =>
      exact stepsOn (writes rest [] (List.append_nil rest))
        (stepMoved (.complete (Shared.moved (s.appended rest) caller (.append []))))
  | release outcome => exact stepMoved (.release here)
  | finished outcome => exact .none

def turn (s : Shared) : Shared :=
  (performed directory caller refusals (s.stage caller) s).2.move caller
    (performed directory caller refusals (s.stage caller) s).1.1

theorem turnSteps (s : Shared) : Steps s (turn directory caller refusals s) := by
  have steps := performedSteps directory caller refusals (s.stage caller) s
  rw [Shared.moveNowhere] at steps
  exact steps

def performedAll {n : Nat} {stage : Stage} (enough : stage.left ≤ n) (s : Shared) :
    Outcome × Shared :=
  (performAll (fun _ => pure ()) (Shared.files caller refusals) directory n stage enough).run s

theorem performedAllSteps {n : Nat} {stage : Stage} (enough : stage.left ≤ n) (s : Shared) :
    Steps (s.move caller stage)
      ((performedAll directory caller refusals enough s).2.move caller
        (.finished (performedAll directory caller refusals enough s).1)) := by
  induction n generalizing stage s with
  | zero =>
    cases stage with
    | finished outcome => exact .none
    | check | acquire | recheck | clear | append | release => cases enough
  | succ n ih =>
    have first := performedSteps directory caller refusals stage s
    have next := (performed directory caller refusals stage s).1.2
    cases stage with
    | finished outcome => exact .none
    | check | acquire | recheck | clear | append | release =>
      exact stepsOn first (ih (Nat.le_trans next (Nat.sub_le_of_le_add enough)) _)

end

/-- Of any number of callers one at most holds the lock. A script that is in place stays, since
nobody is about to clear it or has anything left to write; and whoever was told that it is in
place was told what is true then and ever after. What callers perform in turns, and what one
performs alone, are such steps. -/
theorem installsSafely :
    (∀ script s, Steps (.fresh script) s →
      (∀ a b, (s.stage a).holdsLock = true → (s.stage b).holdsLock = true → a = b) ∧
      (s.script = some Script.bytes → ∀ t, Steps s t → t.script = some Script.bytes ∧
        ∀ caller, t.stage caller ≠ .clear ∧ ∀ rest, t.stage caller = .append rest → rest = []) ∧
      (∀ caller, s.stage caller = .finished (.ok ()) →
        ∀ t, Steps s t → t.script = some Script.bytes)) ∧
    (∀ directory caller refusals s, Steps s (turn directory caller refusals s)) ∧
    (∀ directory caller refusals s, s.stage caller = .check →
      let installed := (install (fun _ => pure ()) (Shared.files caller refusals) directory).run s
      Steps s (installed.2.move caller (.finished installed.1))) := by
  refine ⟨fun script s reached => ?_, turnSteps, fun directory caller refusals s begins => ?_⟩
  · have sound := soundSteps (Shared.soundFresh script) reached
    refine ⟨fun a b => Shared.soundExclusive sound, fun current t steps => ?_,
      fun caller told t => currentSteps sound (Shared.soundAt sound told rfl)⟩
    have stays := currentSteps sound current steps
    exact ⟨stays, nobodyWrites (soundSteps sound steps) stays⟩
  · have stands : s.move caller .check = s := by rw [← begins, Shared.moveNowhere]
    have steps := @performedAllSteps directory caller refusals 6 .check (Nat.le_refl 6) s
    rw [stands] at steps
    exact steps

theorem scriptNotEmpty : Script.bytes ≠ [] := by
  intro nothing
  have spelled : Script.source.toList = [] := Text.utf8Nothing nothing
  have size : Script.source.length = 0 := by rw [← String.length_toList, spelled, List.length_nil]
  have lineEnd : "\n".length = 1 := rfl
  rw [Script.source, Script.lines, List.map_cons, String.join_cons, String.length_append,
    String.length_append] at size
  omega

theorem recheckStale {s : Shared} {caller : Nat} (at_ : s.stage caller = .recheck)
    (stale : s.isCurrent = false) : Step s (s.move caller .clear) := by
  have step := Step.recheck at_
  rw [stale] at step
  exact step

theorem repairedAfterFailure : ∃ s, Steps (.fresh none) s ∧
    s.stage 0 = .finished (.error (.write .noSpace)) ∧ s.stage 1 = .finished (.ok ()) ∧
    ∀ t, Steps s t → t.script = some Script.bytes := by
  have empty : decide (some ([] : Bytes) = some Script.bytes) = false :=
    decide_eq_false fun same => scriptNotEmpty (Option.some.inj same).symm
  have begun : Steps (.fresh none) _ :=
    (Steps.none.more (@Step.check _ 0 rfl)).more (@Step.check _ 1 rfl)
  have cleared := ((begun.more (@Step.acquire _ 0 rfl rfl)).more (@Step.recheck _ 0 rfl)).more
    (@Step.clear _ 0 rfl)
  have failed := (cleared.more (@Step.failed _ 0 (.write .noSpace) (.inr ⟨_, rfl⟩))).more
    (@Step.release _ 0 _ rfl)
  have again := (failed.more (@Step.acquire _ 1 rfl rfl)).more (@recheckStale _ 1 rfl empty)
  have written := (again.more (@Step.clear _ 1 rfl)).more (@Step.append _ 1 Script.bytes []
    (congrArg Stage.append (List.append_nil Script.bytes).symm))
  have done := (written.more (@Step.complete _ 1 rfl)).more (@Step.release _ 1 _ rfl)
  exact ⟨_, done, rfl, rfl, (installsSafely.1 none _ done).2.2 1 rfl⟩

end SvelteTransform.Worker.Install
