import SvelteTransform.Config.Discovery
import SvelteTransform.Options.Basic

/-! What the command line can ask for, and the ways in which a list of arguments can be wrong. -/
namespace SvelteTransform.CommandLine

structure ConfigArguments where
  file : Path
  rootMode : RootMode
  config : Option Path
  projectRoot : Option Path
  deriving DecidableEq, Repr

/-- A config that is given is used unseen, the empty one too. -/
def ConfigArguments.preprocess (a : ConfigArguments) : PreprocessSetting :=
  match a.config with
  | some config => .path config
  | none => .discover

structure PreprocessArguments where
  config : ConfigArguments
  maxBuffer : Nat
  showLog : Bool
  node : Option Path
  deriving DecidableEq, Repr

inductive Command where
  | resolveConfig (arguments : ConfigArguments)
  | preprocess (arguments : PreprocessArguments)
  deriving DecidableEq, Repr

inductive UsageError where
  | noCommand
  | unknownCommand
  | unknownArgument
  | missingArgument
  | invalidValue
  | malformedValue
  | surplusValue
  | repeated
  | help
  | version
  deriving DecidableEq, Repr

def UsageError.message : UsageError → String
  | .noCommand => "a command is required"
  | .unknownCommand => "unrecognized command"
  | .unknownArgument => "unexpected argument"
  | .missingArgument => "the file is missing"
  | .invalidValue => "an option lacks a value, or its value is not on offer"
  | .malformedValue => "an option's value is malformed"
  | .surplusValue => "an option takes no value"
  | .repeated => "an option is given more than once"
  | .help => "usage: svelte-jester resolve-config|preprocess <file> [options]"
  | .version => "svelte-jester 0.1.0"

def UsageError.exitCode : UsageError → Nat
  | .help | .version => 0
  | _ => 2

end SvelteTransform.CommandLine
