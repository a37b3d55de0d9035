/-! Why the system refused an operation on files or processes. -/
namespace SvelteTransform

inductive SystemError where
  | notFound
  | argumentsTooLong
  | badFormat
  | denied
  | alreadyExists
  | notDirectory
  | isDirectory
  | noSpace
  | linkLoop
  | notEmpty
  | textBusy
  | badDescriptor
  | nameTooLong
  | nulByte
  | nulInPath
  | noParent
  | notPermitted
  | busy
  | invalid
  | brokenPipe
  | other (text : String)
  deriving DecidableEq, Repr

def SystemError.message : SystemError → String
  | .notFound => "No such file or directory (os error 2)"
  | .argumentsTooLong => "Argument list too long (os error 7)"
  | .badFormat => "Exec format error (os error 8)"
  | .denied => "Permission denied (os error 13)"
  | .alreadyExists => "File exists (os error 17)"
  | .notDirectory => "Not a directory (os error 20)"
  | .isDirectory => "Is a directory (os error 21)"
  | .noSpace => "No space left on device (os error 28)"
  | .linkLoop => "Too many levels of symbolic links (os error 40)"
  | .notEmpty => "Directory not empty (os error 39)"
  | .badDescriptor => "Bad file descriptor (os error 9)"
  | .textBusy => "Text file busy (os error 26)"
  | .nameTooLong => "File name too long (os error 36)"
  | .nulByte => "nul byte found in provided data"
  | .nulInPath => "file name contained an unexpected NUL byte"
  | .noParent => "failed to create whole tree"
  | .notPermitted => "Operation not permitted (os error 1)"
  | .busy => "Device or resource busy (os error 16)"
  | .invalid => "Invalid argument (os error 22)"
  | .brokenPipe => "Broken pipe (os error 32)"
  | .other text => text

def SystemError.reason (error : SystemError) : String :=
  (error.message.splitOn " (os error").headD ""

end SvelteTransform
