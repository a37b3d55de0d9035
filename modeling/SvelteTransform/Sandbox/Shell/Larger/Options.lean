import SvelteTransform.Sandbox.Shell.Variables

/-! Options in the larger dialect: those of commands, and those of the shell itself. -/
namespace SvelteTransform.Sandbox.Shell

def usages : List (String × String) :=
  [("cd", "[-L|[-P [-e]] [-@]] [dir]"), ("pwd", "[-LP]"), ("unset", "[-f] [-v] [-n] [name ...]"),
   ("export", "[-fn] [name[=value] ...] or export -p"),
   ("readonly", "[-aAf] [name[=value] ...] or readonly -p"),
   ("declare", "[-aAfFgiIlnrtux] [name[=value] ...] or declare -p [-aAfFilnrtux] [name ...]"),
   ("typeset", "[-aAfFgiIlnrtux] name[=value] ... or typeset -p [-aAfFilnrtux] [name ...]"),
   ("local", "[option] name[=value] ..."),
   ("set", "[-abefhkmnptuvxBCEHPT] [-o option-name] [--] [-] [arg ...]"),
   ("shopt", "[-pqsu] [-o] [optname ...]"),
   ("read", "[-ers] [-a array] [-d delim] [-i text] [-n nchars] [-N nchars] [-p prompt] " ++
     "[-t timeout] [-u fd] [name ...]"),
   ("mapfile", "[-d delim] [-n count] [-O origin] [-s count] [-t] [-u fd] [-C callback] " ++
     "[-c quantum] [array]"),
   ("readarray", "[-d delim] [-n count] [-O origin] [-s count] [-t] [-u fd] [-C callback] " ++
     "[-c quantum] [array]"),
   ("kill", "[-s sigspec | -n signum | -sigspec] pid | jobspec ... or kill -l [sigspec]"),
   ("getopts", "optstring name [arg ...]"), ("printf", "[-v var] format [arguments]"),
   ("umask", "[-p] [-S] [mode]"), ("ulimit", "[-SHabcdefiklmnpqrstuvxPRT] [limit]"),
   ("source", "filename [arguments]"), (".", "filename [arguments]"),
   ("type", "[-afptP] name [name ...]"), ("command", "[-pVv] command [arg ...]"),
   ("dirs", "[-clpv] [+N] [-N]"), ("pushd", "[-n] [+N | -N | dir]"), ("popd", "[-n] [+N | -N]"),
   ("trap", "[-lp] [[arg] signal_spec ...]"), ("alias", "[-p] [name[=value] ... ]"),
   ("unalias", "[-a] name [name ...]"), ("wait", "[-fn] [-p var] [id ...]"),
   ("jobs", "[-lnprs] [jobspec ...] or jobs -x command [args]"),
   ("enable", "[-a] [-dnps] [-f filename] [name ...]"), ("hash", "[-lr] [-p pathname] [-dt] [name ...]"),
   ("exec", "[-cl] [-a name] [command [argument ...]] [redirection ...]"),
   ("caller", "[expr]"), ("times", ""), ("builtin", "[shell-builtin [arg ...]]")]

def showUsage {α : Type} (name : String) : Action α := do
  let text := (usages.lookup name).getD ""
  let blank := if text = "" then "" else " "
  let _ ← emit 2 (Octets.say s!"{name}: usage: {name}{blank}{text}\n")
  finish 2
  throw .failed

def invalidOption {α : Type} (name : String) (shown : Octets) : Action α := do
  complain (shown ++ Octets.say ": invalid option")
  showUsage name

def letterOptions (name known : String) : (fuel : Nat) → List Octets →
    Action (List (Char × Octets) × List Octets)
  | fuel + 1, ('-' :: c :: letters) :: rest => do
    if c = '-' && letters = [] then return ([], rest)
    let place := known.toList.dropWhile (· != c)
    if place = [] || c = ':' then invalidOption name ['-', c]
    if place[1]? = some ':' then
      let (argument, rest) ← if letters != [] then pure (letters, rest)
        else match rest with
          | argument :: rest => pure (argument, rest)
          | [] =>
            complain ('-' :: c :: Octets.say ": option requires an argument")
            showUsage name
      let (found, rest) ← letterOptions name known fuel rest
      return ((c, argument) :: found, rest)
    else
      let rest := if letters = [] then rest else ('-' :: letters) :: rest
      let (found, rest) ← letterOptions name known fuel rest
      return ((c, []) :: found, rest)
  | _, rest => return ([], rest)

def optionsOf (name known : String) (arguments : List Octets) :
    Action (List (Char × Octets) × List Octets) :=
  letterOptions name known (arguments.flatten.length + arguments.length + 1) arguments

def shoptNames : List String :=
  ["autocd", "assoc_expand_once", "cdable_vars", "cdspell", "checkhash", "checkjobs",
   "checkwinsize", "cmdhist", "compat31", "compat32", "compat40", "compat41", "compat42",
   "compat43", "compat44", "complete_fullquote", "direxpand", "dirspell", "dotglob", "execfail",
   "expand_aliases", "extdebug", "extglob", "extquote", "failglob", "force_fignore",
   "globasciiranges", "globskipdots", "globstar", "gnu_errfmt", "histappend", "histreedit",
   "histverify", "hostcomplete", "huponexit", "inherit_errexit", "interactive_comments",
   "lastpipe", "lithist", "localvar_inherit", "localvar_unset", "login_shell", "mailwarn",
   "no_empty_cmd_completion", "nocaseglob", "nocasematch", "noexpand_translation", "nullglob",
   "patsub_replacement", "progcomp", "progcomp_alias", "promptvars", "restricted_shell",
   "shift_verbose", "sourcepath", "varredir_close", "xpg_echo"]

def usualSwitches : List String :=
  ["interactive-comments", "checkwinsize", "cmdhist", "complete_fullquote", "extquote",
   "force_fignore", "globasciiranges", "globskipdots", "hostcomplete", "interactive_comments",
   "patsub_replacement", "progcomp", "promptvars", "sourcepath"]

namespace State

def switchNamed (s : State) (name : String) (on : Bool) : State :=
  let others := s.habits.switches.filter (· != name)
  { s with habits := { s.habits with switches := if on then name :: others else others } }

def switchOption (s : State) (option : String × Option Char) (on : Bool) : State :=
  match option.2 with
  | some letter => s.switch letter on
  | none => s.switchNamed option.1 on

end State

def onOff (on : Bool) : String := if on then "on" else "off"

def setLine (name : String) (on : Bool) : Octets :=
  Octets.say ((if on then "set -o " else "set +o ") ++ name ++ "\n")

def optionLine (name : String) (on : Bool) : Octets :=
  Octets.say (name ++ String.ofList (List.replicate (15 - name.length) ' ') ++ "\t" ++
    onOff on ++ "\n")

def listLargerOptions (asCommands : Bool) : Action Unit := do
  let s ← get
  say <| largerOptions.flatMap fun option =>
    let on := s.isOptionOn option
    if asCommands then setLine option.1 on else optionLine option.1 on

def switchLargerLetters (on : Bool) (next : Option Octets) : Octets → Action Bool
  | [] => return false
  | 'o' :: rest => do
    match next with
    | some name =>
      match largerOptions.find? (·.1.toList = name) with
      | some option =>
        modify (·.switchOption option on)
        let _ ← switchLargerLetters on none rest
        return true
      | none =>
        complain (name ++ Octets.say ": invalid option name")
        finish 2
        throw .failed
    | none =>
      listLargerOptions (!on)
      switchLargerLetters on none rest
  | c :: rest => do
    unless largerOptions.any (·.2 = some c) do
      invalidOption "set" [if on then '-' else '+', c]
    modify (·.switch c on)
    switchLargerLetters on next rest

def setLargerOptions : (fuel : Nat) → List Octets → Action Unit
  | 0, _ | _, [] => return
  | fuel + 1, argument :: rest => do
    let switchAll (on : Bool) (letters : Octets) : Action Unit := do
      if ← switchLargerLetters on rest.head? letters then setLargerOptions fuel rest.tail
      else setLargerOptions fuel rest
    match argument with
    | ['-', '-'] => modify ({ · with arguments := rest })
    | ['-'] =>
      modify fun s => (s.switch 'x' false).switch 'v' false
      if rest != [] then modify ({ · with arguments := rest })
    | '-' :: letters => switchAll true letters
    | '+' :: letters => switchAll false letters
    | _ => modify ({ · with arguments := argument :: rest })

def shopt (arguments : List Octets) : Action Unit := do
  let (letters, names) ← optionsOf "shopt" "psuoq" arguments
  let has (c : Char) : Bool := letters.any (·.1 = c)
  if has 's' && has 'u' then
    complain (Octets.say "cannot set and unset shell options simultaneously")
    finish 1
    throw .failed
  let known : List (String × Option Char) :=
    if has 'o' then largerOptions else shoptNames.map (·, none)
  finish 0
  let kind := if has 'o' then "" else "shell "
  let shown (option : String × Option Char) : Action Unit := do
    let on := (← get).isOptionOn option
    unless has 'q' do
      say <| if has 'p' then
          if has 'o' then setLine option.1 on
          else Octets.say ((if on then "shopt -s " else "shopt -u ") ++ option.1 ++ "\n")
        else optionLine option.1 on
  if names = [] then
    for option in known do
      let on := (← get).isOptionOn option
      if (!has 's' || on) && (!has 'u' || !on) then shown option
  else for name in names do
    match known.find? (·.1.toList = name) with
    | none =>
      complain (name ++ Octets.say s!": invalid {kind}option name")
      finish 1
    | some option =>
      if has 's' then modify (·.switchOption option true)
      else if has 'u' then modify (·.switchOption option false)
      else
        unless (← get).isOptionOn option do finish 1
        shown option

end SvelteTransform.Sandbox.Shell
