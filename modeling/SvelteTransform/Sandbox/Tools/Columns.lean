import SvelteTransform.Sandbox.Tools.Printf
import SvelteTransform.Sandbox.Tools.Text

/-! Parts cut out of lines, and lines joined. -/
namespace SvelteTransform.Sandbox.Tools

namespace Places

structure Range where
  low : Nat
  high : Option Nat

def Range.holds (r : Range) (n : Nat) : Bool := r.low ≤ n && r.high.all (n ≤ ·)

def read (bytes : Bool) (text : Octets) : Except Octets (List Range) :=
  let fromOne := Octets.say
    (if bytes then "byte/character positions are numbered from 1" else "fields are numbered from 1")
  let rec go : List Octets → Octets → Except Octets (List Range)
    | [], _ => .ok []
    | part :: more, rest => do
      let later := go more (rest.drop (part.length + 1))
      let low := part.takeWhile Octets.isDigit
      match part.drop low.length with
      | [] =>
        if Octets.natural low = 0 then .error fromOne
        else return ⟨Octets.natural low, some (Octets.natural low)⟩ :: (← later)
      | '-' :: after =>
        if low != [] && Octets.natural low = 0 then .error fromOne
        else
          let high := after.takeWhile Octets.isDigit
          let first := if low = [] then 1 else Octets.natural low
          match after.drop high.length with
          | [] =>
            if low = [] && high = [] then .error (Octets.say "invalid range with no endpoint: -")
            else if high = [] then return ⟨first, none⟩ :: (← later)
            else if Octets.natural high < first then .error (Octets.say "invalid decreasing range")
            else return ⟨first, some (Octets.natural high)⟩ :: (← later)
          | '-' :: _ =>
            let what := if bytes then "byte or character range" else "field range"
            .error (Octets.say s!"invalid {what}")
          | wrong => .error (unknown (rest.drop (part.length - wrong.length)))
      | wrong => .error (unknown (rest.drop (part.length - wrong.length)))
  go (Path.cutAt ',' (text.map fun c => if Octets.isBlank c then ',' else c)) text
where
  unknown (rest : Octets) : Octets :=
    Octets.say (if bytes then "invalid byte/character position " else "invalid field value ") ++
      quoted rest

def merged (ranges : List Range) : List Range :=
  let sorted := ranges.mergeSort fun a b => a.low ≤ b.low
  (sorted.foldl (fun (done : List Range) r => match done with
    | last :: more =>
      if last.holds r.low then
        ⟨last.low, match last.high, r.high with
          | some a, some b => some (max a b)
          | _, _ => none⟩ :: more
      else r :: done
    | [] => [r]) []).reverse

def outside : (start : Nat) → List Range → List Range
  | start, [] => [⟨start, none⟩]
  | start, r :: more =>
    (if start < r.low then [⟨start, some (r.low - 1)⟩] else []) ++
      match r.high with
      | some high => outside (max start (high + 1)) more
      | none => []

def chosen (ranges : List Range) (between : Octets) (parts : List Octets) : Octets :=
  ((parts.zipIdx 1).foldl (fun (text, isFirst) (part, n) =>
    if !ranges.any (·.holds n) then (text, isFirst)
    else
      let starts := ranges.any (·.low = n)
      (part.reverse ++ (if starts && !isFirst then between.reverse else []) ++ text, false))
    (([] : Octets), true)).1.reverse

end Places

def cut (c : Call) : Running Unit :=
  let options : Options := {
    flags := "sn~z", valued := "bcfdO"
    long := [("complement", '~'), ("only-delimited", 's'), ("delimiter", 'd'), ("fields", 'f'),
      ("characters", 'c'), ("bytes", 'b'), ("output-delimiter", 'O'), ("zero-terminated", 'z')] }
  withOptions c options fun given => do
    let lists := given.options.filter fun (letter, _) => letter = 'b' || letter = 'c' || letter = 'f'
    let bytes := lists.any (·.1 != 'f')
    let refuse (text : String) : Running Unit := tryHelp c (Octets.say text)
    match lists with
    | [] => refuse "you must specify a list of bytes, characters, or fields"
    | _ :: _ :: _ => refuse "only one list may be specified"
    | [(_, list)] =>
      let delimiter := (given.value? 'd').getD ['\t']
      if 1 < delimiter.length then refuse "the delimiter must be a single character"
      else if bytes && (given.value? 'd').isSome then
        refuse "an input delimiter may be specified only when operating on fields"
      else if bytes && given.has 's' then
        refuse "suppressing non-delimited lines makes sense\n\tonly when operating on fields"
      else match Places.read bytes list with
        | .error text => tryHelp c text
        | .ok ranges =>
          let ranges := Places.merged ranges
          let ranges := if given.has '~' then Places.outside 1 ranges else ranges
          let lineEnd := if given.has 'z' then '\x00' else '\n'
          let delimiter := delimiter.headD '\x00'
          for (_, text) in ← readAll c Files.endless given.operands do
            for line in Octets.partsTo lineEnd text do
              let body := if line.getLast? = some lineEnd then line.dropLast else line
              if bytes then
                print (Places.chosen ranges ((given.value? 'O').getD []) (body.map ([·])) ++ [lineEnd])
              else if body.contains delimiter then
                let fields := ((Path.cutAt delimiter body).zipIdx 1).filter fun (_, n) =>
                  ranges.any (·.holds n)
                let between := (given.value? 'O').getD [delimiter]
                print (between.intercalate (fields.map (·.1)) ++ [lineEnd])
              else unless given.has 's' do print (body ++ [lineEnd])

def joinedInTurn (delimiters : List Octets) : (n : Nat) → List Octets → Octets
  | _, [] => []
  | _, [last] => last
  | n, first :: rest =>
    first ++ (delimiters[n % delimiters.length]?).getD [] ++ joinedInTurn delimiters (n + 1) rest

def delimiterList? : Octets → Option (List Octets)
  | [] => some []
  | ['\\'] => none
  | '\\' :: c :: rest =>
    let sign := match c with
      | '0' => []
      | 'b' => ['\x08']
      | 'f' => ['\x0c']
      | 'n' => ['\n']
      | 'r' => ['\r']
      | 't' => ['\t']
      | 'v' => ['\x0b']
      | c => [c]
    (delimiterList? rest).map (sign :: ·)
  | c :: rest => (delimiterList? rest).map ([c] :: ·)

def paste (c : Call) : Running Unit :=
  let options : Options := {
    flags := "sz", valued := "d"
    long := [("delimiters", 'd'), ("serial", 's'), ("zero-terminated", 'z')] }
  withOptions c options fun given => do
    let text := (given.value? 'd').getD ['\t']
    match delimiterList? text with
    | none =>
      complain c (Octets.say "delimiter list ends with an unescaped backslash: " ++ text)
    | some delimiters =>
      let delimiters := if delimiters = [] then [[]] else delimiters
      let lineEnd := if given.has 'z' then '\x00' else '\n'
      let files := if given.operands = [] then [['-']] else given.operands
      let shared := files.count ['-']
      let bodies (text : Octets) : List Octets := (Octets.partsTo lineEnd text).map fun line =>
        if line.getLast? = some lineEnd then line.dropLast else line
      if given.has 's' then
        for (_, text) in ← readAll c Files.endless files do
          print (joinedInTurn delimiters 0 (bodies text) ++ [lineEnd])
      else
        let mut found : List (Octets × Octets) := []
        for file in files do
          if (← get).status = 0 then
            match ← readNamed c Files.endless file with
            | .ok text => found := found ++ [(file, text)]
            | .error error => complainOf c file error
        if (← get).status != 0 then return
        let input := ((found.find? (·.1 = ['-'])).map (bodies ·.2)).getD []
        let mut taken := 0
        let mut columns : List (List Octets) := []
        for (name, text) in found do
          if name = ['-'] && 1 < shared then
            let start := taken
            columns := columns ++ [(input.zipIdx.filter fun (_, i) => i % shared = start).map (·.1)]
            taken := taken + 1
          else columns := columns ++ [bodies text]
        let height := (columns.map List.length).foldl max 0
        let arrays := columns.map List.toArray
        for i in List.range height do
          print (joinedInTurn delimiters 0 (arrays.map fun column => column.getD i []) ++ [lineEnd])

end SvelteTransform.Sandbox.Tools
