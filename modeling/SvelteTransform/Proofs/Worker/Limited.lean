import SvelteTransform.Proofs.Worker.Boundary

/-! What a worker writes to a stream that takes so many bytes and no more. It is the beginning of
one text, first what was logged and then the response, and the room alone decides how long a
beginning it is. -/
namespace SvelteTransform.Worker
open Text (Bytes utf8)

namespace Writer

theorem writeNothing (w : Writer) : w.write [] = (.ok (), w) := by
  obtain ⟨_ | room, written, flushes, refusal⟩ := w
  · simp only [write, List.append_nil]
  · simp only [write, List.length_nil, Nat.zero_le, if_true, Nat.sub_zero, List.take_nil,
      List.append_nil]

theorem writeOn (w : Writer) (a b : Bytes) :
    w.write (a ++ b) = match w.write a with
      | (.ok (), w) => w.write b
      | refused => refused := by
  obtain ⟨_ | room, written, flushes, refusal⟩ := w
  · simp only [write, List.append_assoc]
  -- The longer text stops in its first part or behind it, at the same byte either way.
  · by_cases fits : a.length ≤ room
    · have both : a.length + b.length ≤ room ↔ b.length ≤ room - a.length := by omega
      simp only [write, if_pos fits, List.length_append, both, List.take_append,
        List.append_assoc, Nat.sub_add_eq]
    · have neither : ¬ a.length + b.length ≤ room := by omega
      have full : room - a.length = 0 := by omega
      simp only [write, if_neg fits, List.length_append, if_neg neither, List.take_append, full,
        List.take_zero, List.append_nil, Nat.sub_add_eq, Nat.zero_sub]

theorem writeJoined (w : Writer) (pieces : List Bytes) :
    w.writeAll pieces = w.write pieces.flatten := by
  induction pieces generalizing w with
  | nil => rw [List.flatten_nil, writeNothing, writeAll]
  | cons piece pieces ih =>
    rw [List.flatten_cons, writeOn, writeAll]
    obtain ⟨_ | _, left⟩ := w.write piece
    · rfl
    · exact ih left

section
variable {w : Writer} {room : Nat} (has : w.room = some room) {bytes : Bytes}
include has

theorem writeFits (fits : bytes.length ≤ room) : w.write bytes = (.ok (), { w with
    room := some (room - bytes.length)
    written := w.written ++ bytes }) := by
  simp only [write, has, if_pos fits, List.take_of_length_le fits]

theorem writeCut (more : room < bytes.length) : w.write bytes = (.error w.refusal, { w with
    room := some 0
    written := w.written ++ bytes.take room }) := by
  simp only [write, has, if_neg (Nat.not_le.mpr more), Nat.sub_eq_zero_of_le (Nat.le_of_lt more)]

end

end Writer

section
variable {Definition : Type} (p : Preprocessor Definition) (r : Request) (definition : Definition)

def logText : Bytes :=
  if r.showLog then ((p.logged r.source r.filename definition).map (utf8 ·.toList)).flatten else []

def Response.text (response : Response) : Bytes := utf8 (response.line ++ ['\n'])

def replyText : Bytes :=
  match p.result r.source r.filename definition with
  | .ok response => response.text
  | .error _ => []

def fullText : Bytes := logText p r definition ++ replyText p r definition

theorem fullGiven {response : Response}
    (given : p.result r.source r.filename definition = .ok response) :
    fullText p r definition = logText p r definition ++ response.text := by
  rw [fullText, replyText, given]

theorem preprocessWrites (out : Writer) : preprocess p r definition out =
      match out.write (logText p r definition) with
      | (.ok (), out) => (p.result r.source r.filename definition, out)
      | (.error refusal, out) =>
        (.error (p.interrupted r.source r.filename definition refusal), out) := by
  rw [preprocess, logText]
  split
  · cases written : out.write
        ((p.logged r.source r.filename definition).map (utf8 ·.toList)).flatten with
    | mk result left => cases result <;> rw [Writer.writeJoined, written]
  · rw [Writer.writeNothing]

end

theorem respondWrites (response : Response) (out : Writer) : respond response out =
    match out.write response.text with
    | (.ok (), out) => (.ok (), out.flush)
    | refused => refused := by
  have joined : [utf8 response.line, utf8 ['\n']].flatten = response.text := by
    rw [Response.text, Text.utf8Append, List.flatten_cons, List.flatten_cons, List.flatten_nil,
      List.append_nil]
  cases written : out.write response.text with
  | mk result left => cases result <;> rw [respond, Writer.writeJoined, joined, written]

section
variable {Definition : Type} [Inhabited Definition] {r : Request} {load : ConfigLoader Definition}
  {config : LoadedConfig Definition} (loaded : load r.config = .ok config)
  (p : Preprocessor Definition)
include loaded

theorem answerWrites (out : Writer) :
    answer r load p out = match out.write (logText p r config.definition) with
      | (.error refusal, out) => (.error (.preprocess
          (p.interrupted r.source r.filename config.definition refusal)), out)
      | (.ok (), out) => match p.result r.source r.filename config.definition with
        | .error message => (.error (.preprocess message), out)
        | .ok response => match out.write response.text with
          | (.error message, out) => (.error (.write message), out)
          | (.ok (), out) => (.ok (), out.flush) := by
  rw [answer, loaded]
  simp only [preprocessWrites]
  obtain ⟨_ | _, logged⟩ := out.write (logText p r config.definition)
  · rfl
  · cases p.result r.source r.filename config.definition with
    | error message => rfl
    | ok response =>
      simp only [respondWrites]
      obtain ⟨_ | _, _⟩ := logged.write response.text <;> rfl

variable {room : Nat} {refusal : String}

theorem answerInterrupted (short : room < (logText p r config.definition).length) :
    answer r load p (.limited room refusal) =
      (.error (.preprocess (p.interrupted r.source r.filename config.definition refusal)),
        { Writer.limited 0 refusal with
          written := (logText p r config.definition).take room }) := by
  have has : (Writer.limited room refusal).room = some room := rfl
  rw [answerWrites loaded, Writer.writeCut has short]
  rfl

theorem answerFailed (fits : (logText p r config.definition).length ≤ room) {message : String}
    (failed : p.result r.source r.filename config.definition = .error message) :
    answer r load p (.limited room refusal) = (.error (.preprocess message),
      { Writer.limited (room - (logText p r config.definition).length) refusal with
        written := logText p r config.definition }) := by
  have has : (Writer.limited room refusal).room = some room := rfl
  rw [answerWrites loaded, Writer.writeFits has fits, failed]
  rfl

variable {response : Response}
  (given : p.result r.source r.filename config.definition = .ok response)
include given

theorem answerCut (fits : (logText p r config.definition).length ≤ room)
    (short : room < (fullText p r config.definition).length) :
    answer r load p (.limited room refusal) = (.error (.write refusal),
      { Writer.limited 0 refusal with written := (fullText p r config.definition).take room }) := by
  have has : (Writer.limited room refusal).room = some room := rfl
  rw [fullGiven p r _ given] at short ⊢
  rw [answerWrites loaded, Writer.writeFits has fits, given]
  have more : room - (logText p r config.definition).length < response.text.length := by
    rw [List.length_append] at short
    omega
  dsimp only
  rw [Writer.writeCut rfl more, List.take_append, List.take_of_length_le fits]
  rfl

theorem answerGiven (fits : (fullText p r config.definition).length ≤ room) :
    answer r load p (.limited room refusal) = (.ok (),
      { Writer.limited (room - (fullText p r config.definition).length) refusal with
        written := fullText p r config.definition
        flushes := 1 }) := by
  have has : (Writer.limited room refusal).room = some room := rfl
  rw [fullGiven p r _ given] at fits ⊢
  rw [List.length_append] at fits
  have logFits : (logText p r config.definition).length ≤ room := by omega
  have replyFits : response.text.length ≤ room - (logText p r config.definition).length := by omega
  rw [answerWrites loaded, Writer.writeFits has logFits, given]
  dsimp only
  rw [Writer.writeFits rfl replyFits, List.length_append, Nat.sub_add_eq]
  rfl

end

structure Answered (room : Nat) (refusal interruption : String) (log full : Bytes)
    (result : Except String Response) (outcome : Except AnswerError Unit × Writer) : Prop where
  written : outcome.2.written = full.take (min room full.length)
  succeeds : outcome.1 = .ok () ↔ (∃ response, result = .ok response) ∧ full.length ≤ room
  flushed : outcome.1 = .ok () → outcome.2.flushes = 1
  unflushed : outcome.1 ≠ .ok () → outcome.2.flushes = 0
  interrupted : room < log.length → outcome.1 = .error (.preprocess interruption)
  failed : log.length ≤ room → ∀ message, result = .error message →
    outcome.1 = .error (.preprocess message)
  cut : log.length ≤ room → room < full.length → outcome.1 = .error (.write refusal)

section
variable {Definition : Type} [Inhabited Definition]

theorem answered {r : Request} {load : ConfigLoader Definition} {config : LoadedConfig Definition}
    (loaded : load r.config = .ok config) (p : Preprocessor Definition) (room : Nat)
    (refusal : String) :
    Answered room refusal (p.interrupted r.source r.filename config.definition refusal)
      (logText p r config.definition) (fullText p r config.definition)
      (p.result r.source r.filename config.definition)
      (answer r load p (.limited room refusal)) := by
  have whole : (fullText p r config.definition).length =
      (logText p r config.definition).length + (replyText p r config.definition).length :=
    List.length_append
  rcases Nat.lt_or_ge room (logText p r config.definition).length with short | fits
  · rw [answerInterrupted loaded p short]
    have shorter : room < (fullText p r config.definition).length := by omega
    refine ⟨?_, ⟨nofun, fun both => absurd both.2 (Nat.not_le.mpr shorter)⟩, nofun, fun _ => rfl,
      fun _ => rfl, fun fits => absurd fits (Nat.not_le.mpr short),
      fun fits => absurd fits (Nat.not_le.mpr short)⟩
    rw [Nat.min_eq_left (Nat.le_of_lt shorter), fullText,
      List.take_append_of_le_length (Nat.le_of_lt short)]
  · have notShort := Nat.not_lt.mpr fits
    cases given : p.result r.source r.filename config.definition with
    | error message =>
      have only : fullText p r config.definition = logText p r config.definition := by
        rw [fullText, replyText, given]
        exact List.append_nil _
      rw [answerFailed loaded p fits given, only]
      refine ⟨?_, ⟨nofun, nofun⟩, nofun, fun _ => rfl, fun short => absurd short notShort,
        fun _ other same => ?_, fun _ short => absurd short notShort⟩
      · rw [Nat.min_eq_right fits, List.take_length]
      · cases same
        rfl
    | ok response =>
      rcases Nat.lt_or_ge room (fullText p r config.definition).length with shorter | allFits
      · rw [answerCut loaded p given fits shorter]
        refine ⟨?_, ⟨nofun, fun both => absurd both.2 (Nat.not_le.mpr shorter)⟩, nofun,
          fun _ => rfl, fun short => absurd short notShort, fun _ _ => nofun, fun _ _ => rfl⟩
        rw [Nat.min_eq_left (Nat.le_of_lt shorter)]
      · rw [answerGiven loaded p given allFits]
        refine ⟨?_, ⟨fun _ => ⟨⟨response, rfl⟩, allFits⟩, fun _ => rfl⟩, fun _ => rfl,
          fun failed => absurd rfl failed, fun short => absurd short notShort, fun _ _ => nofun,
          fun _ shorter => absurd allFits (Nat.not_le.mpr shorter)⟩
        rw [Nat.min_eq_right allFits, List.take_length]

/-- A config that cannot be loaded leaves the stream alone. Otherwise the stream has the beginning
of the whole text that there is room for; and what is logged makes no difference unless it is to
go out. -/
theorem beginningWritten (r : Request) (load : ConfigLoader Definition)
    (p : Preprocessor Definition) (room : Nat) (refusal : String) :
    (∀ error, load r.config = .error error →
      answer r load p (.limited room refusal) = (.error (.config error), .limited room refusal)) ∧
    (∀ config, load r.config = .ok config →
      Answered room refusal (p.interrupted r.source r.filename config.definition refusal)
        (logText p r config.definition) (fullText p r config.definition)
        (p.result r.source r.filename config.definition)
        (answer r load p (.limited room refusal))) ∧
    (r.showLog = false → ∀ other : Preprocessor Definition, other.result = p.result →
      ∀ out, answer r load other out = answer r load p out) := by
  refine ⟨fun error failed => ?_, fun config loaded => answered loaded p room refusal,
    fun quiet other same out => ?_⟩
  · rw [answer, failed]
  · have silent : ∀ q : Preprocessor Definition, ∀ definition, logText q r definition = [] := by
      intro q definition
      rw [logText, quiet]
      rfl
    cases loaded : load r.config with
    | error error => rw [answer, answer, loaded]
    | ok config =>
      rw [answerWrites loaded, answerWrites loaded, silent, silent, Writer.writeNothing, same]

end

def greeting : Preprocessor String where
  logged _ _ _ := ["hi\n"]
  result source _ _ := .ok ⟨source, none⟩

theorem cutAfterThreeBytes :
    let outcome := answer ⟨"a", ⟨['b']⟩, ⟨['c']⟩, true⟩ (fun _ => .ok ⟨none⟩) greeting (.limited 6)
    outcome.1 = .error (.write "disk full") ∧ outcome.2.written = utf8 "hi\n\x7b\"c".toList ∧
      outcome.2.flushes = 0 := by
  have law := (beginningWritten ⟨"a", ⟨['b']⟩, ⟨['c']⟩, true⟩ (fun _ => .ok ⟨none⟩) greeting 6
    Writer.diskFull).2.1 ⟨none⟩ rfl
  refine ⟨law.cut (by decide) (by decide), law.written.trans (by decide), law.unflushed ?_⟩
  rw [law.cut (by decide) (by decide)]
  nofun

end SvelteTransform.Worker
