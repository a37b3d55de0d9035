import SvelteTransform.Sandbox.Calendar
import SvelteTransform.Sandbox.Tools.Facts

/-! Dates as a program tells them: of now, of a file, or of what texts mean. -/
namespace SvelteTransform.Sandbox.Tools.Dates

def options : Options := {
  flags := "uR", valued := "dfrsρ", optional := "I"
  long := [("date", 'd'), ("file", 'f'), ("iso-8601", 'I'), ("reference", 'r'), ("rfc-email", 'R'),
    ("rfc-2822", 'R'), ("rfc-822", 'R'), ("rfc-3339", 'ρ'), ("set", 's'), ("uct", 'u'), ("utc", 'u'),
    ("universal", 'u')] }

def usual : String := "%a %b %e %H:%M:%S %Z %Y"

def byDay (instant : Bool) : List (String × String) :=
  let hour := "%Y-%m-%dT%H"
  if instant then
    [("date", "%Y-%m-%d"), ("seconds", "%Y-%m-%d %H:%M:%S%:z"), ("ns", "%Y-%m-%d %H:%M:%S.%N%:z")]
  else
    [("hours", hour ++ "%:z"), ("minutes", hour ++ ":%M%:z"), ("date", "%Y-%m-%d"),
     ("seconds", hour ++ ":%M:%S%:z"), ("ns", hour ++ ":%M:%S,%N%:z")]

def forms : List (Char × Octets) → Except Octets (List String)
  | [] => .ok []
  | (letter, value) :: rest => do
    let here ← match letter with
      | 'R' => pure ["%a, %d %b %Y %H:%M:%S %z"]
      | 'I' =>
        if value = [] then pure ["%Y-%m-%d"]
        else pure [← choice "iso-8601" (byDay false) value]
      | 'ρ' => pure [← choice "rfc-3339" (byDay true) value]
      | _ => pure []
    return here ++ (← forms rest)

def showText (c : Call) (form text : Octets) : Running Unit := do
  let now : Int := (← get).files.now
  let found := if text.all Octets.isSpace then
      some ((Calendar.Moment.ofMilliseconds now).days * 86400000)
    else Calendar.read? now text
  match found with
  | some time => print (Calendar.format (.ofMilliseconds time) (form.length + 40) form ++ ['\n'])
  | none => complain c (Octets.say "invalid date " ++ quoted text)

def date (c : Call) : Running Unit :=
  withOptions c options fun given => do
    match forms given.options with
    | .error text => tryHelp c text
    | .ok asked =>
    let sources := ['d', 'f', 'r'].filter given.has
    let (formats, others) := given.operands.partition (·.head? = some '+')
    let bare := others.head?
    if 1 < sources.length then
      tryHelp c (Octets.say "the options to specify dates for printing are mutually exclusive")
    else if 1 < given.operands.length then
      tryHelp c (Octets.say "extra operand " ++ quoted ((given.operands[1]?).getD []))
    else if 1 < asked.length + formats.length then
      complain c (Octets.say "multiple output formats specified")
    else if let some text := bare then
      if sources = [] then complain c (Octets.say "invalid date " ++ quoted text)
      else tryHelp c (Octets.say "the argument " ++ quoted text ++ Octets.say (
        " lacks a leading '+';\nwhen using an option to specify date(s), any non-option\n" ++
        "argument must be a format string beginning with '+'"))
    else
      let form := match formats, asked with
        | text :: _, _ => text.tail
        | [], form :: _ => form.toList
        | [], [] => usual.toList
      if let some text := given.value? 'd' then showText c form text
      else if let some path := given.value? 'r' then
        let files := (← get).files
        match files.find c.here (pathOf path) with
        | .ok (.node inode _) =>
          print (Calendar.format (Facts.moment files inode) (form.length + 40) form ++ ['\n'])
        | .ok (.absent _) => complainOf c path .notFound
        | .error error => complainOf c path error
      else if let some path := given.value? 'f' then
        match ← readNamed c Files.endless path with
        | .ok text => for line in Octets.partsTo '\n' text do showText c form (Octets.dropLineEnds line)
        | .error error => complainOf c path error
      else
        let now : Int := (← get).files.now
        print (Calendar.format (.ofMilliseconds now) (form.length + 40) form ++ ['\n'])

end SvelteTransform.Sandbox.Tools.Dates
