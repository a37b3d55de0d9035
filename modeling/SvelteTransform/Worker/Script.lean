import SvelteTransform.Worker.Request
import SvelteTransform.Text.Utf8

/-! The worker script that node runs, and keeping one good copy of it in a cache directory that
several processes share. -/
namespace SvelteTransform.Worker.Script

def lines : List String := [
  "import \x7b createRequire \x7d from 'node:module';",
  "import \x7b pathToFileURL \x7d from 'node:url';",
  "",
  "const \x7b source, filename, svelteConfig, showConsoleLog \x7d = process.env;",
  "",
  "// stdout carries the response; user code must not write to it unless asked.",
  "if (showConsoleLog !== 'true') \x7b",
  "  console.log = () => \x7b\x7d;",
  "  console.info = () => \x7b\x7d;",
  "  console.debug = () => \x7b\x7d;",
  "\x7d",
  "",
  "const require = createRequire(pathToFileURL(process.cwd() + '/'));",
  "const \x7b preprocess \x7d = await import(pathToFileURL(require.resolve('svelte/compiler')).href);",
  "",
  "const configModule = await import(pathToFileURL(svelteConfig).href);",
  "const config = configModule.default ?? configModule;",
  "const processed = await preprocess(source, config.preprocess || \x7b\x7d, \x7b filename \x7d);",
  "",
  "process.stdout.write(JSON.stringify(\x7b code: processed.code, map: processed.map ?? null \x7d) + '\\n');"]

def source : String := String.join (lines.map (· ++ "\n"))

def bytes : Text.Bytes := Text.utf8 source.toList

def fileName : Path := .ofString "preprocess-worker.mjs"
def lockName : Path := .ofString "preprocess-worker.mjs.lock"

def directoryName : Path := .ofString "svelte-jester"

def homeDirectory (env : Environment) (account : Option Path) : Option Path :=
  (((env "HOME").filter (· != "")).map Path.ofString).or account

def cacheDirectory (env : Environment) (account : Option Path) : Option Path :=
  let named := ((env "XDG_CACHE_HOME").map Path.ofString).filter (·.isAbsolute)
  let usual := (homeDirectory env account).map (·.join (.ofString ".cache"))
  (named.or usual).map (·.join directoryName)

end SvelteTransform.Worker.Script
