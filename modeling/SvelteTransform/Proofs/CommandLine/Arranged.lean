import SvelteTransform.CommandLine.Parse
import SvelteTransform.Proofs.Json.Steps

/-! Arguments in any order. Whatever is chosen for a command can be written, each part of it in more
than one way and the parts in any order, and all that is written so is read as what was chosen. -/
namespace SvelteTransform.CommandLine
open Json.Reader (okBind)

structure ConfigChoice where
  file : String
  rootMode : Option RootMode
  config : Option String
  projectRoot : Option String

structure PreprocessChoice where
  config : ConfigChoice
  maxBuffer : Option UInt64
  showLog : Bool
  node : Option String

inductive Choice where
  | resolveConfig (c : ConfigChoice)
  | preprocess (p : PreprocessChoice)

def ConfigChoice.arguments (c : ConfigChoice) : ConfigArguments :=
  ⟨.ofString c.file, c.rootMode.getD .auto, c.config.map .ofString, c.projectRoot.map .ofString⟩

inductive Part where
  | file (path : String)
  | rootMode (mode : RootMode)
  | config (path : String)
  | projectRoot (path : String)
  | maxBuffer (limit : UInt64)
  | showConsoleLog
  | node (path : String)
  deriving DecidableEq, Repr

def ConfigChoice.options (c : ConfigChoice) : List Part :=
  (c.rootMode.map Part.rootMode).toList ++
    ((c.config.map Part.config).toList ++ (c.projectRoot.map Part.projectRoot).toList)

def PreprocessChoice.options (p : PreprocessChoice) : List Part :=
  (p.maxBuffer.map Part.maxBuffer).toList ++
    ((if p.showLog then [Part.showConsoleLog] else []) ++ (p.node.map Part.node).toList)

namespace Choice

def command : Choice → Command
  | .resolveConfig c => .resolveConfig c.arguments
  | .preprocess p => .preprocess ⟨p.config.arguments,
      (p.maxBuffer.map UInt64.toNat).getD (10 * 1024 * 1024), p.showLog, p.node.map .ofString⟩

def commandName : Choice → String
  | .resolveConfig _ => "resolve-config"
  | .preprocess _ => "preprocess"

def file : Choice → String
  | .resolveConfig c => c.file
  | .preprocess p => p.config.file

def options : Choice → List Part
  | .resolveConfig c => c.options
  | .preprocess p => p.config.options ++ p.options

end Choice

/-- The argument would be taken for an option. A lone hyphen would not. -/
def OptionLike (argument : String) : Prop :=
  argument.toList.head? = some '-' ∧ argument ≠ "-"

instance (argument : String) : Decidable (OptionLike argument) :=
  inferInstanceAs (Decidable (_ ∧ _))

def Numeral (n : Nat) (text : String) : Prop :=
  ∃ sign zeros, (sign = [] ∨ sign = ['+']) ∧
    text.toList = sign ++ (List.replicate zeros '0' ++ Nat.toDigits 10 n)

inductive Says : Part → String → String → Prop where
  | auto : Says (.rootMode .auto) "--root-mode" "auto"
  | upward : Says (.rootMode .upward) "--root-mode" "upward"
  | config (path : String) : Says (.config path) "--config" path
  | projectRoot (path : String) : Says (.projectRoot path) "--project-root" path
  | maxBuffer {limit : UInt64} {text : String} (reads : Numeral limit.toNat text) :
      Says (.maxBuffer limit) "--max-buffer" text
  | node (path : String) : Says (.node path) "--node" path

inductive Spelled : Part → List String → Prop where
  | file {path : String} (plain : ¬ OptionLike path) : Spelled (.file path) [path]
  | flag : Spelled .showConsoleLog ["--show-console-log"]
  | attached {part : Part} {option value : String} (said : Says part option value) :
      Spelled part [option ++ "=" ++ value]
  | separate {part : Part} {option value : String} (said : Says part option value)
      (plain : ¬ OptionLike value) : Spelled part [option, value]

inductive SpelledAll : List Part → List String → Prop where
  | nil : SpelledAll [] []
  | cons {part : Part} {parts : List Part} {group arguments : List String}
      (head : Spelled part group) (tail : SpelledAll parts arguments) :
      SpelledAll (part :: parts) (group ++ arguments)

/-- The arguments for a choice, in any order of its parts. The file may be among them or, whatever
it looks like, behind a separator. -/
inductive Arranged (c : Choice) : List String → Prop where
  | together {parts : List Part} {arguments : List String}
      (order : parts.Perm (.file c.file :: c.options)) (spelled : SpelledAll parts arguments) :
      Arranged c (c.commandName :: arguments)
  | fileLast {parts : List Part} {arguments : List String} (order : parts.Perm c.options)
      (spelled : SpelledAll parts arguments) :
      Arranged c (c.commandName :: (arguments ++ ["--", c.file]))

theorem digitsRead {digits : List Char} (all : ∀ c ∈ digits, c.isDigit = true) (n : Nat) :
    digits? n digits = some (Nat.ofDigitChars 10 digits n) := by
  induction digits generalizing n with
  | nil => rfl
  | cons c digits ih =>
    obtain ⟨isDigit, others⟩ := List.forall_mem_cons.mp all
    have value : digitValue? c = some (c.toNat - '0'.toNat) := by
      rw [Char.isDigit, Bool.and_eq_true, decide_eq_true_iff, decide_eq_true_iff] at isDigit
      exact if_pos isDigit
    rw [digits?, value, Nat.ofDigitChars_cons, Nat.mul_comm 10 n]
    exact ih others _

theorem zerosNothing (zeros : Nat) : Nat.ofDigitChars 10 (List.replicate zeros '0') 0 = 0 := by
  induction zeros with
  | zero => rfl
  | succ zeros ih => exact ih

theorem numeralRead {n : Nat} {text : String} (reads : Numeral n text) (fits : n < UInt64.size) :
    wholeNumber? text.toList = some n := by
  obtain ⟨sign, zeros, isSign, spelled⟩ := reads
  generalize isDigits : List.replicate zeros '0' ++ Nat.toDigits 10 n = digits at spelled
  have all : ∀ c ∈ digits, c.isDigit = true := by
    rw [← isDigits, List.forall_mem_append]
    exact ⟨fun c member => (List.eq_of_mem_replicate member) ▸ rfl,
      fun c => Nat.isDigit_of_mem_toDigits (by decide) (by decide)⟩
  have value : digits? 0 digits = some n := by
    rw [digitsRead all, ← isDigits, Nat.ofDigitChars_append, zerosNothing,
      Nat.ofDigitChars_ten_toDigits]
  have notEmpty : digits ≠ [] := by
    rw [← isDigits]
    exact List.append_ne_nil_of_right_ne_nil _ Nat.toDigits_ne_nil
  have noSign : digits.head? ≠ some '+' := by
    intro signed
    have plus := all '+' (List.mem_of_head? signed)
    cases plus
  have unsigned : (if text.toList.head? = some '+' then text.toList.tail else text.toList) =
      digits := by
    rw [spelled]
    rcases isSign with rfl | rfl
    · exact if_neg noSign
    · rfl
  simp only [wholeNumber?, unsigned, if_neg notEmpty, value]
  exact if_pos fits

def Part.option? : Part → Option OptionName
  | .file _ => none
  | .rootMode _ => some .rootMode
  | .config _ => some .config
  | .projectRoot _ => some .projectRoot
  | .maxBuffer _ => some .maxBuffer
  | .showConsoleLog => some .showConsoleLog
  | .node _ => some .node

def Settled.enter (s : Settled) : Part → Settled
  | .file path => { s with file := some (.ofString path) }
  | .rootMode mode => { s with rootMode := some mode }
  | .config path => { s with config := some (.ofString path) }
  | .projectRoot path => { s with projectRoot := some (.ofString path) }
  | .maxBuffer limit => { s with maxBuffer := some limit.toNat }
  | .showConsoleLog => { s with showLog := true }
  | .node path => { s with node := some (.ofString path) }

def Settled.Open (s : Settled) : Part → Prop
  | .file _ => s.file = none
  | .rootMode _ => s.rootMode = none
  | .config _ => s.config = none
  | .projectRoot _ => s.projectRoot = none
  | .maxBuffer _ => s.maxBuffer = none
  | .showConsoleLog => s.showLog = false
  | .node _ => s.node = none

theorem enterOpen {part other : Part} (different : part.option? ≠ other.option?) {x : Settled}
    (isOpen : x.Open other) : (x.enter part).Open other := by
  cases part <;> cases other <;> first | exact isOpen | exact absurd rfl different

theorem enterSwapped {part other : Part} (different : part.option? ≠ other.option?)
    (x : Settled) : (x.enter part).enter other = (x.enter other).enter part := by
  cases part <;> cases other <;> first | rfl | exact absurd rfl different

theorem optionFound {command : Name} {name : OptionName}
    (available : name ∈ OptionName.available command) :
    OptionName.find? command name.text = some name := by
  cases command <;> cases name <;> first | rfl | exact absurd available (by decide)

section
variable {part : Part} {option value : String} (said : Says part option value)
include said

theorem saysOption : ∃ name, option.toList = '-' :: '-' :: name.text ∧
    part.option? = some name ∧ name.takesValue = true := by
  cases said <;> exact ⟨_, rfl, rfl, rfl⟩

theorem saysSets {name : OptionName} (isOption : part.option? = some name) {x : Settled}
    (isOpen : x.Open part) : x.setValue name value.toList = .ok (x.enter part) := by
  cases said with
  | auto | upward =>
    cases isOption
    rw [Settled.setValue, show x.rootMode = none from isOpen]
    rfl
  | config path =>
    cases isOption
    rw [Settled.setValue, show x.config = none from isOpen]
    rfl
  | projectRoot path =>
    cases isOption
    rw [Settled.setValue, show x.projectRoot = none from isOpen]
    rfl
  | maxBuffer reads =>
    cases isOption
    have isNone : x.maxBuffer = none := isOpen
    simp only [Settled.setValue, isNone, numeralRead reads (UInt64.toNat_lt_size _)]
    rfl
  | node path =>
    cases isOption
    rw [Settled.setValue, show x.node = none from isOpen]
    rfl

end

theorem plainShape {argument : String} (plain : ¬ OptionLike argument) :
    Shape.of argument.toList = .plain := by
  cases spelled : argument.toList with
  | nil => rfl
  | cons c rest =>
    have notHyphen : c = '-' → rest = [] := by
      rintro rfl
      refine Decidable.byContradiction fun longer => plain ⟨congrArg List.head? spelled, ?_⟩
      rintro rfl
      cases spelled
      exact longer rfl
    unfold Shape.of
    split
    · rfl
    · rename_i same
      cases same
      cases notHyphen rfl
    · rename_i same
      cases same
      cases notHyphen rfl
    · rename_i single _ _ same
      cases same
      obtain rfl := notHyphen rfl
      exact absurd rfl single
    · rfl

theorem longShape (name : OptionName) :
    Shape.of ('-' :: '-' :: name.text) = .long name.text none := by
  cases name <;> rfl

theorem attachedShape (name : OptionName) (value : List Char) :
    Shape.of ('-' :: '-' :: (name.text ++ '=' :: value)) = .long name.text (some value) := by
  cases name <;> rfl

/-- This much is settled, unless a last value, which will do, is still to be looked at. -/
structure State.Holds (s : State) (x : Settled) : Prop where
  settles : s.settle = .ok { settled := x }
  file : s.settled.file = x.file
  options : s.onlyFiles = false

theorem holdsSettled (x : Settled) : State.Holds { settled := x } x := ⟨rfl, rfl, rfl⟩

section
variable {command : Name} {s : State} {x : Settled} (holds : s.Holds x)
include holds

theorem holdsNotAwaiting (name : OptionName) : s.pending ≠ .awaiting name := by
  intro awaiting
  have settles := holds.settles
  rw [State.settle, awaiting] at settles
  cases settles

theorem fileTaken {path : String} (plain : ¬ OptionLike path) (isOpen : x.file = none) :
    s.step command path.toList = .ok { settled := x.enter (.file path) } := by
  have noFile : s.settled.file = none := holds.file.trans isOpen
  have taken : s.file path.toList = .ok { settled := x.enter (.file path) } := by
    rw [State.file, noFile, holds.settles]
    rfl
  rw [State.step, holds.options, plainShape plain]
  simp only [Bool.false_eq_true, if_false]
  split
  · rename_i name awaiting
    exact absurd awaiting (holdsNotAwaiting holds name)
  · exact taken

theorem flagTaken (available : .showConsoleLog ∈ OptionName.available command)
    (isOpen : x.showLog = false) : s.step command "--show-console-log".toList =
      .ok { settled := x.enter .showConsoleLog } := by
  have shape : Shape.of "--show-console-log".toList =
      .long (OptionName.text .showConsoleLog) none := longShape .showConsoleLog
  have flag : x.setFlag .showConsoleLog = .ok (x.enter .showConsoleLog) := by
    rw [Settled.setFlag, isOpen]
    rfl
  rw [State.step, holds.options, shape]
  simp only [Bool.false_eq_true, if_false, State.long, optionFound available,
    OptionName.takesValue, holds.settles, okBind, flag]
  rfl

theorem attachedTaken {name : OptionName} (available : name ∈ OptionName.available command)
    (takes : name.takesValue = true) {value : List Char} {y : Settled}
    (sets : x.setValue name value = .ok y) :
    s.step command ('-' :: '-' :: (name.text ++ '=' :: value)) = .ok { settled := y } := by
  rw [State.step, holds.options, attachedShape]
  simp only [Bool.false_eq_true, if_false, State.long, optionFound available, takes,
    holds.settles, okBind, sets]
  rfl

theorem separateAwaited {name : OptionName} (available : name ∈ OptionName.available command)
    (takes : name.takesValue = true) : s.step command ('-' :: '-' :: name.text) =
      .ok { settled := x, pending := .awaiting name } := by
  rw [State.step, holds.options, longShape]
  simp only [Bool.false_eq_true, if_false, State.long, optionFound available, takes,
    holds.settles, okBind]
  rfl

end

theorem separateTaken {command : Name} {name : OptionName} {x : Settled} {value : String}
    (plain : ¬ OptionLike value) :
    State.step command { settled := x, pending := .awaiting name } value.toList =
      .ok { settled := x, pending := .value name value.toList } := by
  rw [State.step, plainShape plain]
  rfl

theorem settleSeparated (s : State) (onlyFiles : Bool) :
    State.settle { s with onlyFiles := onlyFiles } =
      s.settle.map fun t => { t with onlyFiles := onlyFiles } := by
  obtain ⟨settled, pending, before⟩ := s
  cases pending with
  | nothing => rfl
  | awaiting name => rfl
  | value name value =>
    simp only [State.settle]
    cases settled.setValue name value <;> rfl

theorem behindSeparator {command : Name} {s : State} {x : Settled} (holds : s.Holds x)
    (isOpen : x.file = none) (path : String) :
    State.run command s ["--".toList, path.toList] =
      .ok { settled := x.enter (.file path), onlyFiles := true } := by
  have separated : s.step command "--".toList = .ok { s with onlyFiles := true } := by
    rw [State.step, holds.options]
    rfl
  have settles : State.settle { s with onlyFiles := true } =
      .ok { settled := x, onlyFiles := true } := by
    rw [settleSeparated, holds.settles]
    rfl
  have noFile : s.settled.file = none := holds.file.trans isOpen
  have taken : State.step command { s with onlyFiles := true } path.toList =
      .ok { settled := x.enter (.file path), onlyFiles := true } := by
    simp only [State.step, if_true, State.file, noFile, settles]
    rfl
  rw [State.run, separated, okBind, State.run, taken]
  rfl

def State.Goes (command : Name) (s : State) (arguments : List String) (t : State) : Prop :=
  ∀ rest, State.run command s (arguments.map String.toList ++ rest) = State.run command t rest

theorem goesOn {command : Name} {s t u : State} {argument : String} {arguments : List String}
    (step : s.step command argument.toList = .ok t) (goes : t.Goes command arguments u) :
    s.Goes command (argument :: arguments) u := by
  intro rest
  rw [List.map_cons, List.cons_append, State.run, step]
  exact goes rest

theorem goesNowhere (command : Name) (s : State) : s.Goes command [] s := fun _ => rfl

theorem goesBoth {command : Name} {s t u : State} {first second : List String}
    (goes : s.Goes command first t) (further : t.Goes command second u) :
    s.Goes command (first ++ second) u := by
  intro rest
  rw [List.map_append, List.append_assoc, goes, further]

def Part.Available (part : Part) (command : Name) : Prop :=
  ∀ name, part.option? = some name → name ∈ OptionName.available command

theorem groupRead {command : Name} {part : Part} {group : List String}
    (spelled : Spelled part group) (available : part.Available command) {s : State} {x : Settled}
    (holds : s.Holds x) (isOpen : x.Open part) :
    ∃ t, t.Holds (x.enter part) ∧ s.Goes command group t := by
  cases spelled with
  | file plain =>
    exact ⟨_, holdsSettled _, goesOn (fileTaken holds plain isOpen) (goesNowhere _ _)⟩
  | flag =>
    exact ⟨_, holdsSettled _,
      goesOn (flagTaken holds (available _ rfl) isOpen) (goesNowhere _ _)⟩
  | @attached _ option value said =>
    obtain ⟨name, spelled, isOption, takes⟩ := saysOption said
    have sets := saysSets said isOption isOpen
    have step := attachedTaken holds (available name isOption) takes sets
    have written : (option ++ "=" ++ value).toList =
        '-' :: '-' :: (name.text ++ '=' :: value.toList) := by
      simp [String.toList_append, spelled]
    rw [← written] at step
    exact ⟨_, holdsSettled _, goesOn step (goesNowhere _ _)⟩
  | @separate _ option value said plain =>
    obtain ⟨name, spelled, isOption, takes⟩ := saysOption said
    have await := separateAwaited holds (available name isOption) takes
    rw [← spelled] at await
    refine ⟨_, ⟨?_, ?_, rfl⟩, goesOn await (goesOn (separateTaken plain) (goesNowhere _ _))⟩
    · simp only [State.settle, saysSets said isOption isOpen, okBind]
      rfl
    · cases said <;> rfl

theorem groupsRead {command : Name} {parts : List Part} {arguments : List String}
    (spelled : SpelledAll parts arguments) (available : ∀ part ∈ parts, part.Available command)
    (once : (parts.map Part.option?).Nodup) {s : State} {x : Settled} (holds : s.Holds x)
    (isOpen : ∀ part ∈ parts, x.Open part) :
    ∃ t, t.Holds (parts.foldl Settled.enter x) ∧ s.Goes command arguments t := by
  induction spelled generalizing s x with
  | nil => exact ⟨s, holds, goesNowhere _ _⟩
  | @cons part parts group arguments head tail ih =>
    obtain ⟨here, later⟩ := List.forall_mem_cons.mp available
    obtain ⟨openHere, openLater⟩ := List.forall_mem_cons.mp isOpen
    obtain ⟨notLater, onceLater⟩ := List.nodup_cons.mp once
    obtain ⟨t, holds, goes⟩ := groupRead head here holds openHere
    have stillOpen : ∀ other ∈ parts, (x.enter part).Open other := by
      refine fun other member => enterOpen (fun same => notLater ?_) (openLater other member)
      rw [same]
      exact List.mem_map_of_mem member
    obtain ⟨u, holds, further⟩ := ih later onceLater holds stillOpen
    exact ⟨u, holds, goesBoth goes further⟩

theorem enteredOpen {parts : List Part} {other : Part} {x : Settled}
    (apart : other.option? ∉ parts.map Part.option?) (isOpen : x.Open other) :
    (parts.foldl Settled.enter x).Open other := by
  induction parts generalizing x with
  | nil => exact isOpen
  | cons part parts ih =>
    have different : part.option? ≠ other.option? := fun same =>
      apart (same ▸ List.mem_cons_self)
    exact ih (fun later => apart (List.mem_cons_of_mem _ later)) (enterOpen different isOpen)

theorem enteredAlike {parts others : List Part} (order : parts.Perm others)
    (once : (parts.map Part.option?).Nodup) (x : Settled) :
    parts.foldl Settled.enter x = others.foldl Settled.enter x := by
  have different := List.pairwise_map.mp once
  have swapped : ∀ part ∈ parts, ∀ other ∈ parts, ∀ y : Settled,
      (y.enter part).enter other = (y.enter other).enter part :=
    List.Pairwise.forall_of_forall_of_flip (fun _ _ _ => rfl)
      (different.imp fun apart => enterSwapped apart)
      (different.imp fun apart => enterSwapped (Ne.symm apart))
  exact order.foldl_eq' swapped x

def Choice.name : Choice → Name
  | .resolveConfig _ => .resolveConfig
  | .preprocess _ => .preprocess

def Choice.settled : Choice → Settled
  | .resolveConfig c =>
    { file := some (.ofString c.file), rootMode := c.rootMode, config := c.config.map .ofString,
      projectRoot := c.projectRoot.map .ofString }
  | .preprocess p =>
    { file := some (.ofString p.config.file), rootMode := p.config.rootMode,
      config := p.config.config.map .ofString,
      projectRoot := p.config.projectRoot.map .ofString,
      maxBuffer := p.maxBuffer.map UInt64.toNat, showLog := p.showLog,
      node := p.node.map .ofString }

theorem configEntered (c : ConfigChoice) : c.options.foldl Settled.enter {} =
    { rootMode := c.rootMode, config := c.config.map .ofString,
      projectRoot := c.projectRoot.map .ofString } := by
  obtain ⟨file, _ | mode, _ | config, _ | root⟩ := c <;> rfl

theorem choiceEntered (c : Choice) :
    (c.options.foldl Settled.enter {}).enter (.file c.file) = c.settled := by
  cases c with
  | resolveConfig c =>
    rw [Choice.options, configEntered]
    rfl
  | preprocess p =>
    obtain ⟨c, _ | limit, _ | _, _ | node⟩ := p <;>
      simp only [Choice.options, List.foldl_append, configEntered] <;> rfl

theorem choiceCommand (c : Choice) : c.settled.command c.name = .ok c.command := by
  cases c <;> rfl

theorem kindOfChosen {α : Type} (chosen : Option α) {say : α → Part} {name : OptionName}
    (kind : ∀ value, (say value).option? = some name) :
    ((chosen.map say).toList.map Part.option?).Sublist [some name] := by
  cases chosen with
  | none => exact List.nil_sublist _
  | some value => exact (congrArg (fun kind => [kind]) (kind value)) ▸ List.Sublist.refl _

theorem configKinds (c : ConfigChoice) : (c.options.map Part.option?).Sublist
    [some .rootMode, some .config, some .projectRoot] := by
  rw [ConfigChoice.options, List.map_append, List.map_append]
  exact (kindOfChosen _ fun _ => rfl).append
    ((kindOfChosen _ fun _ => rfl).append (kindOfChosen _ fun _ => rfl))

theorem preprocessKinds (p : PreprocessChoice) : (p.options.map Part.option?).Sublist
    [some .maxBuffer, some .showConsoleLog, some .node] := by
  have flag : ((if p.showLog then [Part.showConsoleLog] else []).map Part.option?).Sublist
      [some .showConsoleLog] := by
    cases p.showLog
    · exact List.nil_sublist _
    · exact List.Sublist.refl _
  rw [PreprocessChoice.options, List.map_append, List.map_append]
  exact (kindOfChosen _ fun _ => rfl).append (flag.append (kindOfChosen _ fun _ => rfl))

theorem choiceKinds (c : Choice) :
    (c.options.map Part.option?).Sublist ((OptionName.available c.name).map some) := by
  cases c with
  | resolveConfig c =>
    exact (configKinds c).trans (List.sublist_append_left _ [some OptionName.help])
  | preprocess p =>
    rw [Choice.options, List.map_append]
    exact (configKinds p.config).append
      ((preprocessKinds p).trans (List.sublist_append_left _ [some OptionName.help]))

theorem availableOnce (command : Name) : ((OptionName.available command).map some).Nodup := by
  cases command <;> decide

theorem optionsOnce (c : Choice) : (c.options.map Part.option?).Nodup :=
  (choiceKinds c).nodup (availableOnce c.name)

theorem choiceOnce (c : Choice) : ((Part.file c.file :: c.options).map Part.option?).Nodup := by
  refine List.nodup_cons.mpr ⟨fun member => ?_, optionsOnce c⟩
  obtain ⟨name, _, isNone⟩ := List.mem_map.mp ((choiceKinds c).subset member)
  cases isNone

theorem choiceAvailable (c : Choice) :
    ∀ part ∈ Part.file c.file :: c.options, part.Available c.name := by
  refine List.forall_mem_cons.mpr ⟨fun name isOption => (nomatch isOption), ?_⟩
  intro part member name isOption
  have kind := (choiceKinds c).subset (List.mem_map_of_mem member)
  obtain ⟨other, available, same⟩ := List.mem_map.mp kind
  obtain rfl : other = name := Option.some.inj (same.trans isOption)
  exact available

theorem startOpen (part : Part) : Settled.Open {} part := by
  cases part <;> rfl

theorem commandRead (c : Choice) {arguments : List String} {t : State}
    (runs : State.run c.name {} (arguments.map String.toList) = .ok t)
    (settled : t.settled = c.settled) :
    parse (c.commandName :: arguments) = .ok c.command := by
  have named : Name.ofText? c.commandName = some c.name := by cases c <;> rfl
  rw [parse, named]
  simp only [parseCommand, runs, okBind, settled]
  exact choiceCommand c

theorem togetherRead (c : Choice) {parts : List Part} {arguments : List String}
    (order : parts.Perm (.file c.file :: c.options)) (spelled : SpelledAll parts arguments) :
    parse (c.commandName :: arguments) = .ok c.command := by
  have once := (order.map Part.option?).nodup_iff.mpr (choiceOnce c)
  obtain ⟨t, holds, goes⟩ := groupsRead spelled
    (fun part member => choiceAvailable c part (order.subset member)) once
    (holdsSettled {}) fun part _ => startOpen part
  have entered : parts.foldl Settled.enter {} = c.settled := by
    have fileLast : parts.Perm (c.options ++ [.file c.file]) :=
      order.trans (List.perm_append_singleton _ _).symm
    rw [enteredAlike fileLast once, List.foldl_append]
    exact choiceEntered c
  have runs := goes []
  rw [List.append_nil, State.run, holds.settles] at runs
  exact commandRead c runs entered

theorem fileLastRead (c : Choice) {parts : List Part} {arguments : List String}
    (order : parts.Perm c.options) (spelled : SpelledAll parts arguments) :
    parse (c.commandName :: (arguments ++ ["--", c.file])) = .ok c.command := by
  have once := (order.map Part.option?).nodup_iff.mpr (optionsOnce c)
  obtain ⟨t, holds, goes⟩ := groupsRead spelled (fun part member =>
      choiceAvailable c part (List.mem_cons_of_mem _ (order.subset member))) once
    (holdsSettled {}) fun part _ => startOpen part
  have noFile : none ∉ parts.map Part.option? := fun member =>
    (List.nodup_cons.mp (choiceOnce c)).1 ((order.map Part.option?).subset member)
  have isOpen : Settled.Open (parts.foldl Settled.enter {}) (.file c.file) :=
    enteredOpen noFile rfl
  have runs := goes ["--".toList, c.file.toList]
  rw [behindSeparator holds isOpen] at runs
  rw [enteredAlike order once, choiceEntered] at runs
  refine commandRead c (t := { settled := c.settled, onlyFiles := true }) ?_ rfl
  rw [List.map_append]
  exact runs

theorem partSpelled {part : Part} (notFile : part.option? ≠ none) :
    ∃ group, Spelled part group := by
  cases part with
  | file path => exact absurd rfl notFile
  | rootMode mode =>
    cases mode with
    | auto => exact ⟨_, .attached .auto⟩
    | upward => exact ⟨_, .attached .upward⟩
  | config path => exact ⟨_, .attached (.config path)⟩
  | projectRoot path => exact ⟨_, .attached (.projectRoot path)⟩
  | maxBuffer limit =>
    exact ⟨_, .attached (.maxBuffer ⟨[], 0, .inl rfl, String.toList_ofList⟩)⟩
  | showConsoleLog => exact ⟨_, .flag⟩
  | node path => exact ⟨_, .attached (.node path)⟩

theorem partsSpelled {parts : List Part} (noFile : none ∉ parts.map Part.option?) :
    ∃ arguments, SpelledAll parts arguments := by
  induction parts with
  | nil => exact ⟨[], .nil⟩
  | cons part parts ih =>
    obtain ⟨group, head⟩ := partSpelled fun isFile => noFile (isFile ▸ List.mem_cons_self)
    obtain ⟨arguments, tail⟩ := ih fun later => noFile (List.mem_cons_of_mem _ later)
    exact ⟨group ++ arguments, .cons head tail⟩

/-- Every choice can be written, and however it is written, it is read. -/
theorem arrangedParsed (c : Choice) :
    (∃ arguments, Arranged c arguments) ∧
      ∀ arguments, Arranged c arguments → parse arguments = .ok c.command := by
  constructor
  · obtain ⟨arguments, spelled⟩ := partsSpelled (List.nodup_cons.mp (choiceOnce c)).1
    exact ⟨_, .fileLast (List.Perm.refl _) spelled⟩
  · intro arguments arranged
    cases arranged with
    | together order spelled => exact togetherRead c order spelled
    | fileLast order spelled => exact fileLastRead c order spelled

theorem likeOtherThings :
    parse ["preprocess", "--node=a=b", "--max-buffer", "+007", "src/App.svelte",
        "--show-console-log", "--config", "preprocess"] =
      .ok (.preprocess ⟨⟨.ofString "src/App.svelte", .auto, some (.ofString "preprocess"), none⟩,
        7, true, some (.ofString "a=b")⟩) ∧
    parse ["resolve-config", "--root-mode=upward", "--", "--help"] =
      .ok (.resolveConfig ⟨.ofString "--help", .upward, none, none⟩) := by
  have limit : Numeral (UInt64.toNat 7) "+007" := ⟨['+'], 2, .inr rfl, rfl⟩
  have parts : SpelledAll
      [.node "a=b", .maxBuffer 7, .file "src/App.svelte", .showConsoleLog, .config "preprocess"]
      ["--node=a=b", "--max-buffer", "+007", "src/App.svelte", "--show-console-log", "--config",
        "preprocess"] :=
    .cons (.attached (.node "a=b")) (.cons (.separate (.maxBuffer limit) (by decide))
      (.cons (.file (by decide)) (.cons .flag
        (.cons (.separate (.config "preprocess") (by decide)) .nil))))
  have option : SpelledAll [.rootMode .upward] ["--root-mode=upward"] :=
    .cons (.attached .upward) .nil
  constructor
  · exact (arrangedParsed (.preprocess ⟨⟨"src/App.svelte", none, some "preprocess", none⟩,
      some 7, true, some "a=b"⟩)).2 _ (.together (by decide) parts)
  · exact (arrangedParsed (.resolveConfig ⟨"--help", some .upward, none, none⟩)).2 _
      (.fileLast (by decide) option)

end SvelteTransform.CommandLine
