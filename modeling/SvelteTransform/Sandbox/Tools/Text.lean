import SvelteTransform.Sandbox.Tools.Basic

/-! Programs that pass text on: all of it, its beginning or its end. -/
namespace SvelteTransform.Sandbox.Tools

def bodyAndEnd (line : Octets) : Octets × Octets :=
  if line.getLast? = some '\n' then (line.dropLast, ['\n']) else (line, [])

def padLeft (width : Nat) (text : Octets) : Octets :=
  List.replicate (width - text.length) ' ' ++ text

def padRight (width : Nat) (text : Octets) : Octets :=
  text ++ List.replicate (width - text.length) ' '

def shown (tabs : Bool) (c : Char) : Octets :=
  let n := c.toNat
  if c = '\n' || (c = '\t' && !tabs) then [c]
  else if n < 32 then ['^', Octets.byte (n + 64)]
  else if n < 127 then [c]
  else if n = 127 then ['^', '?']
  else if n < 160 then ['M', '-', '^', Octets.byte (n - 64)]
  else if n < 255 then ['M', '-', Octets.byte (n - 128)]
  else ['M', '-', '^', '?']

def inodeOf (c : Call) (path : Octets) : Option Inode :=
  match c.files.find c.here (pathOf path) with
  | .ok (.node inode (.file _)) => some inode
  | _ => none

def cat (c : Call) : Running Unit :=
  let options : Options := {
    flags := "nbsAETvetu"
    long := [("number", 'n'), ("number-nonblank", 'b'), ("squeeze-blank", 's'), ("show-all", 'A'),
      ("show-ends", 'E'), ("show-tabs", 'T'), ("show-nonprinting", 'v')] }
  withOptions c options fun given => do
    let has (letters : List Char) : Bool := letters.any given.has
    let plain := given.options.all (·.1 = 'u')
    let mut number := 0
    let mut wasBlank := false
    let mut startsLine := true
    for file in if given.operands = [] then [['-']] else given.operands do
      match ← readNamed c Files.endless file with
      | .error error => complainOf c file error
      | .ok text =>
        if c.output.isSome && text != [] && c.output = inodeOf c file then
          complain c (quotedIfWild file ++ Octets.say ": input file is output file")
        else if plain then print text
        else
          for line in Octets.lines text do
            let (body, lineEnd) := bodyAndEnd line
            unless given.has 's' && wasBlank && body = [] do
              let numbered := startsLine &&
                (given.has 'b' && body != [] || given.has 'n' && !given.has 'b')
              if numbered then number := number + 1
              let label := if numbered then padLeft 6 (Octets.ofInt (number : Nat)) ++ ['\t'] else []
              let visible := if has ['A', 'v', 'e', 't'] then
                  body.flatMap (shown (has ['A', 'T', 't']))
                else if given.has 'T' then body.flatMap fun c => if c = '\t' then ['^', 'I'] else [c]
                else body
              let mark := if has ['A', 'E', 'e'] && lineEnd != [] then ['$'] else []
              print (label ++ visible ++ mark ++ lineEnd)
            wasBlank := startsLine && body = []
            startsLine := lineEnd != []

def tee (c : Call) : Running Unit :=
  let options : Options := {
    flags := "aip", optional := "O"
    long := [("append", 'a'), ("ignore-interrupts", 'i'), ("output-error", 'O')] }
  withOptions c options fun given => do
    match ← readNamed c Files.endless ['-'] with
    | .error error => complainOf c ['-'] error
    | .ok text =>
      print text
      for file in given.operands do
        let files := (← get).files
        let bytes := Octets.toBytes text
        match files.find c.here (pathOf file) with
        | .ok (.node _ (.device (.descriptor n))) => printTo n text
        | _ =>
          let changed := if given.has 'a' then files.append c.here (pathOf file) bytes
            else files.write c.here (pathOf file) bytes
          match changed with
          | .ok files => modify ({ · with files })
          | .error error => complainOf c file error

def unit? (letters : Octets) : Option Nat :=
  match letters with
  | [] => some 1
  | ['b'] => some 512
  | ['k', 'B'] => some 1000
  | c :: rest =>
    match "KMGTPEZY".toList.idxOf? (if c = 'k' || c = 'm' then c.toUpper else c), rest with
    | some i, [] | some i, ['i', 'B'] => some (Nat.pow 1024 (i + 1))
    | some i, ['B'] | some i, ['D'] => some (Nat.pow 1000 (i + 1))
    | _, _ => none

def count? (text : Octets) : Option Nat :=
  let digits := text.takeWhile Octets.isDigit
  if digits = [] then none
  else (unit? (text.drop digits.length)).map (Octets.natural digits * ·)

def hasTitles (given : Given) (files : List Octets) : Bool :=
  match given.options.reverse.find? fun (letter, _) => letter = 'q' || letter = 'v' with
  | some (letter, _) => letter = 'v'
  | none => 1 < files.length

def eachFile (c : Call) (limit : Nat) (given : Given) (body : Octets → Running Unit) :
    Running Unit := do
  let files := if given.operands = [] then [['-']] else given.operands
  let titled := hasTitles given files
  let mut first := true
  for file in files do
    match ← readNamed c limit file with
    | .error error =>
      match error with
      | .isDirectory => complain c (Octets.say "error reading " ++ quoted file ++
          Octets.say s!": {error.reason}")
      | _ => complain c (Octets.say "cannot open " ++ quoted file ++
          Octets.say s!" for reading: {error.reason}")
    | .ok text =>
      if titled then
        let title := if file = ['-'] then Octets.say "standard input" else file
        print ((if first then [] else ['\n']) ++ Octets.say "==> " ++ title ++ Octets.say " <==\n")
      first := false
      body text

def dropLast (n : Nat) (lines : List Octets) : List Octets := lines.take (lines.length - n)

def headTailOptions : Options :=
  { flags := "qvfFz0123456789", valued := "ncs"
    long := [("lines", 'n'), ("bytes", 'c'), ("quiet", 'q'), ("silent", 'q'), ("verbose", 'v'),
      ("follow", 'f'), ("zero-terminated", 'z')] }

structure Wanted where
  bytes : Bool := false
  sign : Option Char := none
  amount : Nat := 10
  lineEnd : Char := '\n'

def Wanted.of (given : Given) : Except Octets Wanted := do
  let w : Wanted := { lineEnd := if given.has 'z' then '\x00' else '\n' }
  given.options.foldlM (fun (w : Wanted) (letter, value) =>
    if letter != 'n' && letter != 'c' then .ok w
    else
      let (sign, digits) := match value with
        | '-' :: digits => (some '-', digits)
        | '+' :: digits => (some '+', digits)
        | digits => (none, digits)
      let unit := if letter = 'c' then "bytes" else "lines"
      let shown := quoted (if sign = some '-' then digits else value)
      match count? digits with
      | some amount => .ok { w with bytes := letter = 'c', sign, amount }
      | none => .error (Octets.say s!"invalid number of {unit}: " ++ shown)) w

def numberFirst (arguments : List Octets) : Except Char (List Octets) :=
  match arguments with
  | ('-' :: d :: text) :: rest =>
    if !Octets.isDigit d then .ok arguments
    else
      let digits := d :: text.takeWhile Octets.isDigit
      let letters := text.dropWhile Octets.isDigit
      match letters.find? (!"cbkmlqvz".toList.contains ·) with
      | some wrong => .error wrong
      | none =>
        let measure := letters.filter ("cbkml".toList.contains ·)
        let unit := match measure.getLast? with
          | some 'b' => ['b']
          | some 'k' => ['k']
          | some 'm' => ['m']
          | _ => []
        let letter := if measure.getLast?.any (· != 'l') then 'c' else 'n'
        .ok (['-', letter] :: (digits ++ unit) ::
          ((letters.filter ("qvz".toList.contains ·)).map fun c => ['-', c]) ++ rest)
  | arguments => .ok arguments

def head (c : Call) : Running Unit := do
  match numberFirst c.operands with
  | .error wrong => tryHelp c (Octets.say "invalid trailing option -- " ++ [wrong])
  | .ok arguments =>
    withOptions { c with arguments := c.name :: arguments } headTailOptions fun given => do
      match Wanted.of given with
      | .error text => complain c text
      | .ok w =>
        if let some (digit, _) := given.options.find? fun (letter, _) => Octets.isDigit letter then
          complain c (Octets.say "invalid trailing option -- " ++ [digit])
        else if Nat.pow 2 64 ≤ w.amount then
          let unit := if w.bytes then "bytes" else "lines"
          let text := (given.options.reverse.find? fun (letter, _) => letter = 'n' || letter = 'c').map (·.2)
          complain c (Octets.say s!"invalid number of {unit}: " ++ quoted (text.getD []) ++
            Octets.say ": Value too large for defined data type")
        else
        let limit := if w.bytes && w.sign != some '-' then w.amount else Files.endless
        eachFile c limit given fun text => do
          let found := match w.bytes, w.sign with
            | true, some '-' => text.take (text.length - w.amount)
            | true, _ => Octets.firstBytes w.amount text
            | false, some '-' => (dropLast w.amount (Octets.partsTo w.lineEnd text)).flatten
            | false, _ => Octets.firstParts w.lineEnd w.amount text
          print found
          let isEnough := match w.bytes, w.sign with
            | _, some '-' => false
            | true, _ => found.length = w.amount
            | false, _ => (found.filter (· = w.lineEnd)).length = w.amount
          if isEnough then needed (.bytes found.length)

def countFirst (arguments : List Octets) : List Octets :=
  let alone (rest : List Octets) : Bool := match rest with
    | [] | [['-']] => true
    | [file] => file.head? != some '-'
    | ['-', '-'] :: more => more.length ≤ 1
    | _ => false
  match arguments with
  | (mark :: text) :: rest =>
    let digits := text.takeWhile Octets.isDigit
    let fromStart := mark = '+'
    if !(mark = '-' || fromStart) || !alone rest || (text = [] || text = ['c']) && !fromStart then
      arguments
    else
      let digits := if digits = [] then ['1', '0'] else digits
      let start := if fromStart then ['+'] else []
      match text.dropWhile Octets.isDigit with
      | ['b'] => ['-', 'c'] :: (start ++ digits ++ ['b']) :: rest
      | ['c'] => ['-', 'c'] :: (start ++ digits) :: rest
      | ['l'] | [] => ['-', 'n'] :: (start ++ digits) :: rest
      | _ => arguments
  | arguments => arguments

def tail (c : Call) : Running Unit :=
  let operands := countFirst c.operands
  let misplaced (digit : Char) : Running Unit :=
    complain c (Octets.say "option used in invalid context -- " ++ [digit])
  match operands with
  | ('-' :: digit :: _) :: _ => if Octets.isDigit digit then misplaced digit else usual operands misplaced
  | operands => usual operands misplaced
where
  usual (operands : List Octets) (misplaced : Char → Running Unit) : Running Unit :=
    withOptions { c with arguments := c.name :: operands } headTailOptions fun given => do
    match given.options.find? fun (letter, _) => Octets.isDigit letter, Wanted.of given with
    | some (digit, _), _ => misplaced digit
    | none, .error text => complain c text
    | none, .ok w =>
      eachFile c Files.endless given fun text =>
        let parts := if w.bytes then [] else Octets.partsTo w.lineEnd text
        print <| match w.bytes, w.sign with
          | true, some '+' => text.drop (w.amount - 1)
          | true, _ => text.drop (text.length - w.amount)
          | false, some '+' => (parts.drop (w.amount - 1)).flatten
          | false, _ => (parts.drop (parts.length - w.amount)).flatten

end SvelteTransform.Sandbox.Tools
