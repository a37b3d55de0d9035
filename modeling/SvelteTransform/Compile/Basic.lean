import SvelteTransform.Json.Printer
import SvelteTransform.Path

/-! The compiler as the transformation sees it: two entry points, options for each, and code with
a map or an error. -/
namespace SvelteTransform.Compile

inductive ModuleFormat where
  | cjs
  | esm
  deriving DecidableEq, Repr

def ModuleFormat.name : ModuleFormat → String
  | .cjs => "cjs"
  | .esm => "esm"

inductive Target where
  | component
  | module
  deriving DecidableEq, Repr

namespace Target

def name : Target → String
  | .component => "component"
  | .module => "module"

def moduleEndings : List (List Char) := [".svelte.js".toList, ".svelte.ts".toList]

def ofPath (path : Path) : Target :=
  if moduleEndings.any (·.isSuffixOf path.lastName) then .module else .component

end Target

structure Options extends OrderedFields Json
  deriving DecidableEq

inductive Generate where
  | client
  | server
  deriving DecidableEq, Repr

def Generate.name : Generate → String
  | .client => "client"
  | .server => "server"

structure ModuleOptions where
  filename : Option String
  dev : Bool
  generate : Generate
  deriving DecidableEq, Repr

namespace Options

def base (file : Path) (legacy : Bool) (format : ModuleFormat) (sourcemap : Option Json) :
    Fields Json :=
  Fields.ofList <|
    [("filename", Json.string (String.ofList file.lastName)),
     ("css", if legacy then .boolean true else .string "injected"),
     ("accessors", .boolean true),
     ("dev", .boolean true)] ++
    (sourcemap.map fun map => ("sourcemap", map)).toList ++
    if legacy then [("format", .string format.name)] else []

def assemble (file : Path) (legacy : Bool) (format : ModuleFormat) (sourcemap : Option Json)
    (overrides : Fields Json) : Options :=
  ⟨(base file legacy format sourcemap).overlay overrides, Fields.ofListOrdered _⟩

def get? (o : Options) (key : String) : Option Json := Fields.get? o.fields key

def filename (o : Options) : Option String :=
  match o.get? "filename" with
  | some (.string name) => some name
  | _ => none

def holds (o : Options) (key : String) : Bool := (o.get? key).any Json.isTruthy

def dev (o : Options) : Bool := o.holds "dev"
def ssr (o : Options) : Bool := o.holds "ssr"

def forModule (o : Options) : ModuleOptions :=
  ⟨o.filename, o.dev, if o.ssr then .server else .client⟩

def text (o : Options) : String := (Json.object o.fields).toText

end Options

def ModuleOptions.text (o : ModuleOptions) : String :=
  (Json.object ((o.filename.map fun name => ("filename", Json.string name)).toList ++
    [("dev", .boolean o.dev), ("generate", .string o.generate.name)])).toText

def mapVersion : String × Json := ("version", .ofNat 3)

structure Output where
  code : String
  map : Json
  deriving DecidableEq

structure OrderedOutput extends Output where
  ordered : map.Ordered

structure Error where
  message : String
  code : Option String
  frame : Option String
  deriving DecidableEq, Repr

def Error.report (e : Error) : String :=
  match e.frame with
  | some frame => e.message ++ "\n" ++ frame
  | none => e.message

structure Compiler where
  version : Option String
  component : String → Options → Except Error Output
  module : String → ModuleOptions → Except Error Output

structure Result where
  code : String
  map : String
  deriving DecidableEq, Repr

/-- Lets a CommonJS module be imported like an ES module. -/
def esInterop : String :=
  "Object.defineProperty(exports, \"__esModule\", \x7b value: true \x7d);"

def Result.ofOutput (output : Output) (format : ModuleFormat) : Result where
  code := match format with
    | .cjs => output.code ++ esInterop
    | .esm => output.code
  map := output.map.toText

def Result.text (r : Result) : String :=
  (Json.object [("code", .string r.code), ("map", .string r.map)]).toText

end SvelteTransform.Compile
