import Mathlib.Data.List.Induction
import SvelteTransform.Proofs.Worker.Outcome

/-! Reading up to a limit, attempt by attempt. The pieces that the output comes in are of no
account: it is read to its end, or given up at the attempt that fails or brings too much. -/
namespace SvelteTransform.Worker
open Text (Bytes)

theorem writtenAppend (a b : List ReadEvent) : written (a ++ b) = written a ++ written b :=
  List.flatMap_append

theorem writtenChunk (events : List ReadEvent) (bytes : Bytes) :
    written (events ++ [.chunk bytes]) = written events ++ bytes := by
  rw [writtenAppend]
  exact congrArg (written events ++ ·) (List.append_nil bytes)

theorem readableNext {events : List ReadEvent} (readable : Readable events) {event : ReadEvent}
    (works : ∀ error, .failed error ≠ event) : Readable (events ++ [event]) := by
  simp only [Readable, List.mem_append, List.mem_singleton, not_or]
  exact fun error => ⟨readable error, works error⟩

theorem readableChunk {events : List ReadEvent} (readable : Readable events) (bytes : Bytes) :
    Readable (events ++ [.chunk bytes]) := by
  refine readableNext readable fun error same => ?_
  cases same

theorem readableInterrupted {events : List ReadEvent} (readable : Readable events) :
    Readable (events ++ [.interrupted]) := by
  refine readableNext readable fun error same => ?_
  cases same

namespace Capture

inductive After (limit : Nat) (events : List ReadEvent) : Capture → Prop where
  | reading (readable : Readable events) (fits : (written events).length ≤ limit) :
      After limit events (.reading (written events))
  | overflowed (before after : List ReadEvent) (bytes : Bytes)
      (parts : events = before ++ .chunk bytes :: after) (readable : Readable before)
      (fits : (written before).length ≤ limit)
      (passed : limit < (written before).length + bytes.length) : After limit events .overflowed
  | failed (before after : List ReadEvent) (error : SystemError)
      (parts : events = before ++ .failed error :: after) (readable : Readable before)
      (fits : (written before).length ≤ limit) : After limit events (.failed error)

variable {limit : Nat} {events : List ReadEvent}

theorem afterStep {c : Capture} (after : After limit events c) (event : ReadEvent) :
    After limit (events ++ [event]) (step limit c event) := by
  cases after with
  | overflowed before after bytes parts readable fits passed =>
    refine .overflowed before (after ++ [event]) bytes ?_ readable fits passed
    rw [parts, List.append_assoc, List.cons_append]
  | failed before after error parts readable fits =>
    refine .failed before (after ++ [event]) error ?_ readable fits
    rw [parts, List.append_assoc, List.cons_append]
  | reading readable fits =>
    cases event with
    | failed error => exact .failed events [] error rfl readable fits
    | interrupted =>
      have same : written (events ++ [.interrupted]) = written events := by
        rw [writtenAppend]
        exact List.append_nil _
      have reading : After limit (events ++ [.interrupted])
          (.reading (written (events ++ [.interrupted]))) :=
        .reading (readableInterrupted readable) (by rwa [same])
      rwa [same] at reading
    | chunk bytes =>
      rw [step]
      split
      · rename_i passed
        exact .overflowed events [] bytes rfl readable fits passed
      · rename_i short
        rw [← writtenChunk]
        refine .reading (readableChunk readable bytes) ?_
        rw [writtenChunk, List.length_append]
        exact Nat.le_of_not_lt short

theorem afterRun (limit : Nat) (events : List ReadEvent) :
    After limit events (run limit events) := by
  induction events using List.reverseRecOn with
  | nil => exact .reading nofun (Nat.zero_le limit)
  | append_singleton events event ih =>
    rw [run, List.foldl_append]
    exact afterStep ih event

theorem failedStays (limit : Nat) (error : SystemError) (events : List ReadEvent) :
    events.foldl (step limit) (.failed error) = .failed error := by
  induction events with
  | nil => rfl
  | cons event events ih => exact ih

theorem runReading (readable : Readable events) (fits : (written events).length ≤ limit) :
    run limit events = .reading (written events) := by
  rw [run, captured (Nat.zero_le limit) readable, List.nil_append, if_neg (Nat.not_lt.mpr fits)]

theorem runPassed {before : List ReadEvent} {bytes : Bytes} (readable : Readable before)
    (passed : limit < (written before).length + bytes.length) (after : List ReadEvent) :
    run limit (before ++ .chunk bytes :: after) = .overflowed := by
  have still := readableChunk readable bytes
  rw [List.append_cons, run, List.foldl_append, captured (Nat.zero_le limit) still, if_pos]
  · exact overflowStays limit after
  · rw [List.nil_append, writtenChunk, List.length_append]
    exact passed

theorem runFailed {before : List ReadEvent} {error : SystemError} (readable : Readable before)
    (fits : (written before).length ≤ limit) (after : List ReadEvent) :
    run limit (before ++ .failed error :: after) = .failed error := by
  have start := runReading readable fits
  rw [run] at start
  rw [run, List.foldl_append, start, List.foldl_cons, step]
  exact failedStays limit error after

end Capture

structure UpTo (limit : Nat) (events : List ReadEvent) : Prop where
  whole : ∀ bytes, readCapped limit events = .ok (some bytes) ↔
    Readable events ∧ (written events).length ≤ limit ∧ bytes = written events
  overflow : readCapped limit events = .ok none ↔ ∃ before bytes after,
    events = before ++ .chunk bytes :: after ∧ Readable before ∧
    limit < (written before).length + bytes.length
  failure : ∀ error, readCapped limit events = .error error ↔ ∃ before after,
    events = before ++ .failed error :: after ∧ Readable before ∧ (written before).length ≤ limit
  stored : ∀ taken further stored, events = taken ++ further →
    Capture.run limit taken = .reading stored → stored = written taken ∧ stored.length ≤ limit
  stops : ∀ before bytes after, events = before ++ .chunk bytes :: after → Readable before →
    (written before).length ≤ limit → limit < (written before).length + bytes.length →
    Capture.run limit before = .reading (written before) ∧
    ∀ other, Capture.run limit (before ++ .chunk bytes :: other) = .overflowed
  pieces : ∀ others, Readable events → Readable others → written others = written events →
    readCapped limit others = readCapped limit events

theorem upTo (limit : Nat) (events : List ReadEvent) : UpTo limit events := by
  have after := Capture.afterRun limit events
  refine ⟨fun bytes => ⟨fun result => ?_, ?_⟩, ⟨fun result => ?_, ?_⟩,
    fun error => ⟨fun result => ?_, ?_⟩, fun taken _ stored _ reading => ?_,
    fun before bytes _ _ readable fits passed =>
      ⟨Capture.runReading readable fits, Capture.runPassed readable passed⟩,
    fun others readable also same => ?_⟩
  · rw [readCapped] at result
    generalize Capture.run limit events = c at after result
    cases after with
    | reading readable fits =>
      cases result
      exact ⟨readable, fits, rfl⟩
    | overflowed => cases result
    | failed => cases result
  · rintro ⟨readable, fits, rfl⟩
    rw [cappedExactly limit readable, if_neg (Nat.not_lt.mpr fits)]
  · rw [readCapped] at result
    generalize Capture.run limit events = c at after result
    cases after with
    | reading => cases result
    | overflowed before after bytes parts readable fits passed =>
      exact ⟨before, bytes, after, parts, readable, passed⟩
    | failed => cases result
  · rintro ⟨before, bytes, after, rfl, readable, passed⟩
    rw [readCapped, Capture.runPassed readable passed, Capture.result]
  · rw [readCapped] at result
    generalize Capture.run limit events = c at after result
    cases after with
    | reading => cases result
    | overflowed => cases result
    | failed before after error parts readable fits =>
      cases result
      exact ⟨before, after, parts, readable, fits⟩
  · rintro ⟨before, after, rfl, readable, fits⟩
    rw [readCapped, Capture.runFailed readable fits, Capture.result]
  · have led := Capture.afterRun limit taken
    rw [reading] at led
    cases led with
    | reading readable fits => exact ⟨rfl, fits⟩
  · rw [cappedExactly limit readable, cappedExactly limit also, same]

def firstOf (stream : Nat → ReadEvent) (n : Nat) : List ReadEvent := (List.range n).map stream

/-- No attempt fails, and after some more attempts there is always more output. -/
structure Endless (stream : Nat → ReadEvent) : Prop where
  unfailing : ∀ n error, stream n ≠ .failed error
  further : ∀ n, ∃ m bytes, n ≤ m ∧ stream m = .chunk bytes ∧ bytes ≠ []

def repeated (bytes : Bytes) (n : Nat) : ReadEvent :=
  if n % 2 = 0 then .chunk bytes else .interrupted

theorem repeatedEndless {bytes : Bytes} (nonempty : bytes ≠ []) : Endless (repeated bytes) := by
  refine ⟨fun n error => ?_, fun n => ?_⟩
  · rw [repeated]
    split <;> exact nofun
  · have even : 2 * n % 2 = 0 := Nat.mul_mod_right 2 n
    exact ⟨2 * n, bytes, Nat.le_mul_of_pos_left n Nat.two_pos, if_pos even, nonempty⟩

def Stops (limit : Nat) (stream : Nat → ReadEvent) : Prop :=
  ∃ n bytes, stream n = .chunk bytes ∧
    Capture.run limit (firstOf stream n) = .reading (written (firstOf stream n)) ∧
    (written (firstOf stream n)).length ≤ limit ∧
    ∀ m, n < m → Capture.run limit (firstOf stream m) = .overflowed

section
variable {stream : Nat → ReadEvent}

theorem firstNext (n : Nat) : firstOf stream (n + 1) = firstOf stream n ++ [stream n] := by
  rw [firstOf, firstOf, List.range_succ, List.map_append, List.map_singleton]

theorem firstSplit (stream : Nat → ReadEvent) {n m : Nat} (later : n ≤ m) :
    ∃ more, firstOf stream m = firstOf stream n ++ more := by
  induction later with
  | refl => exact ⟨[], (List.append_nil _).symm⟩
  | @step m _ ih =>
    obtain ⟨more, whole⟩ := ih
    exact ⟨more ++ [stream m], by rw [firstNext, whole, List.append_assoc]⟩

theorem firstReadable (unfailing : ∀ n error, stream n ≠ .failed error) (n : Nat) :
    Readable (firstOf stream n) := by
  intro error member
  obtain ⟨m, -, failed⟩ := List.mem_map.mp member
  exact unfailing m error failed

theorem firstGrows (endless : Endless stream) (size : Nat) :
    ∃ n, size ≤ (written (firstOf stream n)).length := by
  induction size with
  | zero => exact ⟨0, Nat.zero_le _⟩
  | succ size ih =>
    obtain ⟨n, enough⟩ := ih
    obtain ⟨m, bytes, later, isChunk, nonempty⟩ := endless.further n
    obtain ⟨more, whole⟩ := firstSplit stream later
    have one : 0 < bytes.length := List.length_pos_iff.mpr nonempty
    refine ⟨m + 1, ?_⟩
    rw [firstNext, isChunk, writtenChunk, whole, writtenAppend, List.length_append,
      List.length_append]
    omega

theorem stopsBefore {limit n : Nat} (unfailing : ∀ n error, stream n ≠ .failed error)
    (tooMuch : limit < (written (firstOf stream n)).length) : Stops limit stream := by
  induction n with
  | zero => exact absurd tooMuch (Nat.not_lt_zero limit)
  | succ n ih =>
    by_cases already : limit < (written (firstOf stream n)).length
    · exact ih already
    -- It was this attempt that brought too much, so it is a chunk.
    · have fits := Nat.le_of_not_lt already
      have readable := firstReadable unfailing n
      rw [firstNext] at tooMuch
      cases event : stream n with
      | failed error => exact absurd event (unfailing n error)
      | interrupted =>
        rw [event, writtenAppend, List.length_append] at tooMuch
        exact absurd tooMuch already
      | chunk bytes =>
        rw [event, writtenChunk, List.length_append] at tooMuch
        refine ⟨n, bytes, event, Capture.runReading readable fits, fits, fun m later => ?_⟩
        obtain ⟨more, whole⟩ := firstSplit stream later
        rw [whole, firstNext, event, ← List.append_cons]
        exact Capture.runPassed readable tooMuch more

theorem endlessStops (endless : Endless stream) (limit : Nat) : Stops limit stream := by
  obtain ⟨n, tooMuch⟩ := firstGrows endless (limit + 1)
  exact stopsBefore endless.unfailing tooMuch

end

/-- Of every output, in whatever pieces it comes and whether it ends or not. -/
theorem readUpToLimit (limit : Nat) : (∀ events, UpTo limit events) ∧
    ∀ stream, Endless stream → Stops limit stream :=
  ⟨upTo limit, fun _ endless => endlessStops endless limit⟩

end SvelteTransform.Worker
