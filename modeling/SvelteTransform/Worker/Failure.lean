import SvelteTransform.Path
import SvelteTransform.SystemError

/-! Why a preprocessing worker gave no response. -/
namespace SvelteTransform.Worker

inductive InstallError where
  | noNode
  | noCacheDirectory
  | makeDirectory (error : SystemError)
  | openLock (path : Path) (error : SystemError)
  | takeLock (path : Path) (error : SystemError)
  | write (error : SystemError)
  deriving DecidableEq, Repr

def InstallError.message : InstallError → String
  | .noNode => "node not found on PATH"
  | .noCacheDirectory => "could not determine cache directory"
  | .makeDirectory error => s!"failed to create cache dir: {error.message}"
  | .openLock path error => s!"failed to open {path}: {error.message}"
  | .takeLock path error => s!"failed to lock {path}: {error.message}"
  | .write error => s!"failed to write worker script: {error.message}"

inductive Failure where
  | spawn (error : SystemError)
  | overflow (program : String) (limit : Nat)
  | exit (code : Int) (stderr : String)
  | protocol (message : String) (output : String)
  | missingVariable (name : String)
  | install (error : InstallError)
  deriving DecidableEq, Repr

def Failure.message : Failure → String
  | .spawn error => s!"failed to spawn preprocess worker: {error.message}"
  | .overflow program limit =>
    s!"spawnSync {program} ENOBUFS: preprocess output exceeded maxBuffer of {limit} bytes"
  | .exit code stderr => s!"preprocess worker exited with code {code}: {stderr}"
  | .protocol message output =>
    s!"failed to parse preprocess worker output: {message}\n{output}"
  | .missingVariable name => s!"missing preprocess envelope variable `{name}`"
  | .install error => s!"failed to install preprocess worker: {error.message}"

end SvelteTransform.Worker
