import SvelteTransform.Sandbox.Tools.Basic

/-! Who runs programs here, and on what. There is one user, whom everything belongs to, and nobody
is logged in. -/
namespace SvelteTransform.Sandbox.Tools.Identity

structure User where
  name : String
  number : Nat
  group : String
  groupNumber : Nat

def owner : User := ⟨"root", 0, "root", 0⟩

def users : List User := [owner, ⟨"daemon", 1, "daemon", 1⟩, ⟨"bin", 2, "bin", 2⟩, ⟨"sys", 3, "sys", 3⟩,
  ⟨"www-data", 33, "www-data", 33⟩, ⟨"nobody", 65534, "nogroup", 65534⟩]

def user? (text : Octets) : Option User :=
  users.find? fun user =>
    user.name.toList = text || (Octets.isNumber text && user.number = Octets.natural text)

def extraOperand (c : Call) (given : Given) (allowed : Nat) (body : Running Unit) : Running Unit :=
  match given.operands[allowed]? with
  | some text => tryHelp c (Octets.say "extra operand " ++ quoted text)
  | none => body

def whoami (c : Call) : Running Unit :=
  withOptions c { flags := "" } fun given =>
    extraOperand c given 0 (print (Octets.say (owner.name ++ "\n")))

def logname (c : Call) : Running Unit :=
  withOptions c { flags := "" } fun given =>
    extraOperand c given 0 (complain c (Octets.say "no login name"))

def loggedIn (_ : Call) : Running Unit := return

def groups (c : Call) : Running Unit :=
  withOptions c { flags := "" } fun given => do
    if given.operands = [] then print (Octets.say (owner.group ++ "\n"))
    for name in given.operands do
      match user? name with
      | some user => print (name ++ Octets.say s!" : {user.group}\n")
      | none => complain c (quoted name ++ Octets.say ": no such user")

def idOptions : Options := {
  flags := "aGgnruZz"
  long := [("groups", 'G'), ("group", 'g'), ("name", 'n'), ("real", 'r'), ("user", 'u'),
    ("zero", 'z'), ("context", 'Z')] }

def id (c : Call) : Running Unit :=
  withOptions c idOptions fun given => do
    let chosen := ['u', 'g', 'G'].filter given.has
    let named := given.has 'n'
    let lineEnd := if given.has 'z' then ['\x00'] else ['\n']
    if given.has 'Z' then
      complain c (Octets.say "--context (-Z) works only on an SELinux-enabled kernel")
    else if 1 < chosen.length then
      complain c (Octets.say "cannot print \"only\" of more than one choice")
    else if chosen = [] && (named || given.has 'r') then
      complain c (Octets.say "cannot print only names or real IDs in default format")
    else if chosen = [] && given.has 'z' then
      complain c (Octets.say "option --zero not permitted in default format")
    else
      let tellAbout (user : User) : Running Unit :=
        match chosen with
        | 'u' :: _ =>
          print (Octets.say (if named then user.name else s!"{user.number}") ++ lineEnd)
        | _ :: _ =>
          print (Octets.say (if named then user.group else s!"{user.groupNumber}") ++ lineEnd)
        | [] =>
          let group := s!"{user.groupNumber}({user.group})"
          print (Octets.say s!"uid={user.number}({user.name}) gid={group} groups={group}\n")
      if given.operands = [] then tellAbout owner
      for name in given.operands do
        match user? name with
        | some user => tellAbout user
        | none => complain c (quoted name ++ Octets.say ": no such user")

def machine : List (Char × String) :=
  [('s', "Linux"), ('n', "localhost"), ('r', "6.1.0"), ('v', "#1 SMP"), ('m', "x86_64"),
   ('p', "unknown"), ('i', "unknown"), ('o', "GNU/Linux")]

def unameOptions : Options := {
  flags := "asnrvmpio"
  long := [("all", 'a'), ("kernel-name", 's'), ("sysname", 's'), ("nodename", 'n'),
    ("kernel-release", 'r'), ("release", 'r'), ("kernel-version", 'v'), ("machine", 'm'),
    ("processor", 'p'), ("hardware-platform", 'i'), ("operating-system", 'o')] }

def uname (c : Call) : Running Unit :=
  withOptions c unameOptions fun given =>
    extraOperand c given 0 do
      let wanted := machine.filter fun (letter, value) =>
        if given.has 'a' then value != "unknown" else given.has letter
      let wanted := if wanted.isEmpty then machine.take 1 else wanted
      print (Octets.say (" ".intercalate (wanted.map (·.2)) ++ "\n"))

def arch (c : Call) : Running Unit :=
  withOptions c { flags := "" } fun given =>
    extraOperand c given 0 (print (Octets.say "x86_64\n"))

def hostname (c : Call) : Running Unit :=
  withOptions c { flags := "sfdiIaA" } fun _ => print (Octets.say "localhost\n")

def nproc (c : Call) : Running Unit :=
  withOptions c { flags := "a", valued := "i", long := [("all", 'a'), ("ignore", 'i')] } fun given =>
    extraOperand c given 0 (print (Octets.say "1\n"))

def tty (c : Call) : Running Unit :=
  withOptions c { flags := "s", long := [("silent", 's'), ("quiet", 's')] } (fun given => do
    match given.operands with
    | text :: _ => tryHelp c (Octets.say "extra operand " ++ quoted text) 2
    | [] =>
      unless given.has 's' do print (Octets.say "not a tty\n")
      fails 1) 2

def sync (c : Call) : Running Unit :=
  withOptions c { flags := "df", long := [("data", 'd'), ("file-system", 'f')] } fun given => do
    for path in given.operands do
      let error? (error : SystemError) : Running Unit :=
        complain c (Octets.say "error opening " ++ quoted path ++ Octets.say s!": {error.reason}")
      match (← get).files.find c.here (pathOf path) with
      | .ok (.node ..) => pure ()
      | .ok (.absent _) => error? .notFound
      | .error error => error? error

end SvelteTransform.Sandbox.Tools.Identity
