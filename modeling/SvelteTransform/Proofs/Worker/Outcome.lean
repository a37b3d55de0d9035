import SvelteTransform.Worker.Runner

/-! What comes of a worker that was started. All that it printed is read or nothing is: its output
counts as too long exactly if it is, however it came in pieces, and nothing else is looked at
then. -/
namespace SvelteTransform.Worker
open Text (Bytes)

def ReadEvent.bytes : ReadEvent → Bytes
  | .chunk bytes => bytes
  | _ => []

def written (events : List ReadEvent) : Bytes := events.flatMap ReadEvent.bytes

def Readable (events : List ReadEvent) : Prop := ∀ error, ReadEvent.failed error ∉ events

namespace Capture

theorem overflowStays (limit : Nat) (events : List ReadEvent) :
    events.foldl (step limit) .overflowed = .overflowed := by
  induction events with
  | nil => rfl
  | cons event events ih => exact ih

theorem captured {limit : Nat} {stored : Bytes} (fits : stored.length ≤ limit)
    {events : List ReadEvent} (readable : Readable events) :
    events.foldl (step limit) (.reading stored) =
      if limit < (stored ++ written events).length then .overflowed
      else .reading (stored ++ written events) := by
  induction events generalizing stored with
  | nil =>
    rw [written, List.flatMap_nil, List.append_nil, if_neg (Nat.not_lt.mpr fits)]
    rfl
  | cons event events ih =>
    have others : Readable events := fun error member =>
      readable error (List.mem_cons_of_mem _ member)
    rw [List.foldl_cons, written, List.flatMap_cons, ← List.append_assoc]
    cases event with
    | chunk bytes =>
      simp only [step]
      split
      · rename_i tooLong
        rw [overflowStays, if_pos]
        rw [List.length_append, List.length_append]
        exact Nat.lt_of_lt_of_le tooLong (Nat.le_add_right _ _)
      · rename_i short
        refine ih ?_ others
        rw [List.length_append]
        exact Nat.le_of_not_lt short
    | interrupted =>
      have nothing : stored ++ ReadEvent.bytes .interrupted = stored := List.append_nil stored
      rw [nothing]
      exact ih fits others
    | failed error => exact absurd List.mem_cons_self (readable error)

theorem stepLarger {small large : Nat} (larger : small ≤ large) (c : Capture) (event : ReadEvent) :
    step small c event = .overflowed ∨ step large c event = step small c event := by
  cases c with
  | overflowed | failed => exact .inr rfl
  | reading stored =>
    cases event with
    | interrupted | failed => exact .inr rfl
    | chunk bytes =>
      by_cases passed : small < stored.length + bytes.length
      · exact .inl (if_pos passed)
      · have notPassed : ¬ large < stored.length + bytes.length :=
          fun more => passed (Nat.lt_of_le_of_lt larger more)
        rw [step, step, if_neg passed, if_neg notPassed]
        exact .inr rfl

theorem largerLimit {small large : Nat} (larger : small ≤ large) (c : Capture)
    (events : List ReadEvent) : events.foldl (step small) c = .overflowed ∨
      events.foldl (step large) c = events.foldl (step small) c := by
  induction events generalizing c with
  | nil => exact .inr rfl
  | cons event events ih =>
    rw [List.foldl_cons, List.foldl_cons]
    obtain passed | same := stepLarger larger c event
    · rw [passed]
      exact .inl (overflowStays small events)
    · rw [same]
      exact ih _

end Capture

theorem cappedExactly (limit : Nat) {events : List ReadEvent} (readable : Readable events) :
    readCapped limit events =
      .ok (if limit < (written events).length then none else some (written events)) := by
  rw [readCapped, Capture.run, Capture.captured (Nat.zero_le limit) readable, List.nil_append]
  split <;> rfl

theorem cappedMore {small large : Nat} (larger : small ≤ large) {events : List ReadEvent}
    (within : readCapped small events ≠ .ok none) :
    readCapped large events = readCapped small events := by
  obtain passed | same := Capture.largerLimit larger (.reading []) events
  · rw [readCapped, Capture.run, passed] at within
    exact absurd rfl within
  · rw [readCapped, readCapped, Capture.run, Capture.run, same]

theorem outcomeMore {small large : Nat} (larger : small ≤ large) {worker : Finished}
    (within : readCapped small worker.stdout ≠ .ok none) {program : String} :
    outcome program large worker = outcome program small worker := by
  rw [outcome, outcome, cappedMore larger within]
  split
  · rfl
  · rename_i passed
    exact absurd passed within
  · rfl

structure Outcome (program : String) (limit : Nat) (worker : Finished)
    (result : Except Failure Response) : Prop where
  overflow : result = .error (.overflow program limit) ↔ limit < (written worker.stdout).length
  exited : (written worker.stdout).length ≤ limit →
    ∀ code, worker.status = .exited code → code ≠ 0 →
      result = .error (.exit code (decoded worker.stderr))
  killed : (written worker.stdout).length ≤ limit → ∀ signal, worker.status = .killed signal →
    result = .error (.exit (-1) (decoded worker.stderr))
  failed : (written worker.stdout).length ≤ limit →
    ((∃ code text, result = .error (.exit code text)) ↔ worker.status ≠ .exited 0)
  answered : (written worker.stdout).length ≤ limit → worker.status = .exited 0 →
    result = Response.ofOutput (decoded (written worker.stdout))
  whole : ∀ p, result = .ok p → (written worker.stdout).length ≤ limit ∧
    worker.status = .exited 0 ∧ Response.ofOutput (decoded (written worker.stdout)) = .ok p

theorem ofOutputFailure {output : String} {failure : Failure}
    (refused : Response.ofOutput output = .error failure) :
    ∃ message, failure = .protocol message output := by
  unfold Response.ofOutput at refused
  dsimp only at refused
  split at refused <;> cases refused
  exact ⟨_, rfl⟩

theorem success {status : ExitStatus} : status.isSuccess = true ↔ status = .exited 0 := by
  unfold ExitStatus.isSuccess
  split
  · exact ⟨fun _ => rfl, fun _ => rfl⟩
  · rename_i other
    exact ⟨nofun, fun same => absurd same other⟩

section
variable {program : String} {limit : Nat} {worker : Finished} (readable : Readable worker.stdout)
include readable

theorem outcomeOverflows (tooLong : limit < (written worker.stdout).length) :
    outcome program limit worker = .error (.overflow program limit) := by
  rw [outcome, cappedExactly limit readable, if_pos tooLong]

theorem outcomeFails (fits : (written worker.stdout).length ≤ limit)
    (failed : worker.status ≠ .exited 0) : outcome program limit worker =
      .error (.exit worker.status.code (decoded worker.stderr)) := by
  rw [outcome, cappedExactly limit readable, if_neg (Nat.not_lt.mpr fits)]
  exact if_neg (mt success.mp failed)

theorem outcomeAnswers (fits : (written worker.stdout).length ≤ limit)
    (succeeded : worker.status = .exited 0) : outcome program limit worker =
      Response.ofOutput (decoded (written worker.stdout)) := by
  rw [outcome, cappedExactly limit readable, if_neg (Nat.not_lt.mpr fits)]
  exact if_pos (success.mpr succeeded)

theorem outcomeLaw : Outcome program limit worker (outcome program limit worker) := by
  by_cases tooLong : limit < (written worker.stdout).length
  · rw [outcomeOverflows readable tooLong]
    have notFits := Nat.not_le.mpr tooLong
    exact ⟨⟨fun _ => tooLong, fun _ => rfl⟩, fun fits => absurd fits notFits,
      fun fits => absurd fits notFits, fun fits => absurd fits notFits,
      fun fits => absurd fits notFits, nofun⟩
  · have fits := Nat.le_of_not_lt tooLong
    by_cases succeeded : worker.status = .exited 0
    · rw [outcomeAnswers readable fits succeeded]
      refine ⟨⟨fun refused => ?_, fun more => absurd more tooLong⟩, fun _ code same other => ?_,
        fun _ signal same => ?_, fun _ => ⟨?_, fun failed => absurd succeeded failed⟩,
        fun _ _ => rfl, fun p ok => ⟨fits, succeeded, ok⟩⟩
      · obtain ⟨_, same⟩ := ofOutputFailure refused
        cases same
      · rw [succeeded] at same
        cases same
        contradiction
      · rw [succeeded] at same
        cases same
      · rintro ⟨code, text, refused⟩
        obtain ⟨_, same⟩ := ofOutputFailure refused
        cases same
    · rw [outcomeFails readable fits succeeded]
      refine ⟨⟨nofun, fun more => absurd more tooLong⟩, fun _ code same _ => ?_,
        fun _ signal same => ?_, fun _ => ⟨fun _ => succeeded, fun _ => ⟨_, _, rfl⟩⟩,
        fun _ same => absurd same succeeded, nofun⟩
      · rw [same]
        rfl
      · rw [same]
        rfl

end

theorem runBind {σ α β : Type} (x : StateM σ α) (next : α → StateM σ β) (s : σ) :
    (x >>= next).run s = (next (x.run s).1).run (x.run s).2 := rfl

namespace Runner

section
variable {σ : Type} (machine : Machine (StateM σ)) (runner : Runner) (request : Request)
  (before : σ)

def started (command : Command) (found : σ) (limit : Nat) : Except SystemError Finished :=
  ((machine.finish command request.toVariables limit).run
    ((machine.report (startRecord command request)).run found).2).1

def Spawned (limit : Nat) (command : Command) (worker : Finished) : Prop :=
  ∃ found, (runner.commandFor machine).run before = (.ok command, found) ∧
    started machine request command found limit = .ok worker

/-- What a worker does is the same under every limit. -/
def IgnoresLimit : Prop :=
  ∀ command found, (runner.commandFor machine).run before = (.ok command, found) →
    ∀ a b, started machine request command found a = started machine request command found b

def result (limit : Nat) : Except Failure Response :=
  ((runner.run machine request limit).run before).1

theorem resultGiven (limit : Nat) : result machine runner request before limit =
    match (runner.commandFor machine).run before with
    | (.error error, _) => .error (.install error)
    | (.ok command, found) =>
      match started machine request command found limit with
      | .error error => .error (.spawn error)
      | .ok worker => outcome command.program limit worker := by
  rw [result, Runner.run, runBind]
  match (runner.commandFor machine).run before with
  | (.error error, _) => rfl
  | (.ok command, found) =>
    dsimp only
    rw [runBind, runBind, started]
    match (machine.finish command request.toVariables limit).run
        ((machine.report (startRecord command request)).run found).2 with
    | (.error error, _) => rfl
    | (.ok worker, _) =>
      dsimp only
      cases worker.output? limit <;> rfl

variable {machine} {runner} {request} {before}

theorem spawnedResult {limit : Nat} {command : Command} {worker : Finished}
    (spawned : Spawned machine runner request before limit command worker) :
    result machine runner request before limit = outcome command.program limit worker := by
  obtain ⟨found, isCommand, finished⟩ := spawned
  rw [resultGiven, isCommand]
  dsimp only
  rw [finished]

theorem largerResult {small large : Nat} (larger : small ≤ large)
    (ignores : IgnoresLimit machine runner request before)
    (within : ∀ program, result machine runner request before small ≠
      .error (.overflow program small)) :
    result machine runner request before large = result machine runner request before small := by
  rw [resultGiven] at within ⊢
  rw [resultGiven]
  match isCommand : (runner.commandFor machine).run before with
  | (.error error, _) => rfl
  | (.ok command, found) =>
    rw [isCommand] at within
    dsimp only at within ⊢
    rw [ignores command found isCommand large small]
    cases finished : started machine request command found small with
    | error error => rfl
    | ok worker =>
      rw [finished] at within
      dsimp only at within ⊢
      refine outcomeMore larger fun passed => within command.program ?_
      rw [outcome, passed]

/-- Of every worker that is started, whatever it prints and however it ends; and if it does not look
at the limit, then a limit that is enough is no different from a larger one. -/
theorem resultLaw (machine : Machine (StateM σ)) (runner : Runner) (request : Request)
    (before : σ) :
    (∀ limit command worker, Spawned machine runner request before limit command worker →
      Readable worker.stdout →
      Outcome command.program limit worker (result machine runner request before limit)) ∧
    (IgnoresLimit machine runner request before → ∀ small,
      (∀ program, result machine runner request before small ≠ .error (.overflow program small)) →
        ∀ large, small ≤ large → result machine runner request before large =
          result machine runner request before small) := by
  refine ⟨fun limit command worker spawned readable => ?_, fun ignores small within large larger =>
    largerResult larger ignores within⟩
  rw [spawnedResult spawned]
  exact outcomeLaw readable

theorem fiveBytesFit : ∃ (machine : Machine (StateM Unit)) (runner : Runner) (request : Request)
    (command : Command) (worker : Finished),
    Spawned machine runner request () 5 command worker ∧ (written worker.stdout).length = 5 ∧
    Outcome command.program 5 worker (result machine runner request () 5) ∧
    result machine runner request () 6 = result machine runner request () 5 := by
  let command := Command.ofProgram "worker"
  let worker : Finished := ⟨[.chunk [91, 34, 97], .interrupted, .chunk [34, 93]], [], .exited 0⟩
  let failure : SystemError := .notPermitted
  let files : Install.Files (StateM Unit) := ⟨fun _ => pure (.error failure),
    fun _ => pure (.error failure), fun _ => pure (.error failure), fun _ => pure (),
    fun _ => pure (.error failure), fun _ _ => pure (.error failure)⟩
  let machine : Machine (StateM Unit) := ⟨pure none, pure none, fun _ => pure (.error failure),
    files, fun _ => pure (), fun _ _ _ => pure (.ok worker)⟩
  let request : Request := ⟨"a", .ofString "A.svelte", .ofString "svelte.config.js", false⟩
  have spawned : Spawned machine (.program command) request () 5 command worker := ⟨(), rfl, rfl⟩
  have readable : Readable worker.stdout := by
    intro error member
    simp [worker] at member
  obtain ⟨outcomes, larger⟩ := resultLaw machine (.program command) request ()
  have outcome := outcomes 5 command worker spawned readable
  refine ⟨machine, .program command, request, command, worker, spawned, rfl, outcome, ?_⟩
  refine larger (fun _ _ _ _ _ => rfl) 5 (fun program same => ?_) 6 (by decide)
  rw [outcome.answered (by decide) rfl] at same
  obtain ⟨_, same⟩ := ofOutputFailure same
  cases same

end

end Runner

end SvelteTransform.Worker
