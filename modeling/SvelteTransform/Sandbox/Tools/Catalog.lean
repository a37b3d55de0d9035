import SvelteTransform.Sandbox.Tools.Bytes
import SvelteTransform.Sandbox.Tools.CharacterSets
import SvelteTransform.Sandbox.Tools.Columns
import SvelteTransform.Sandbox.Tools.Compare
import SvelteTransform.Sandbox.Tools.Counting
import SvelteTransform.Sandbox.Tools.Dates
import SvelteTransform.Sandbox.Tools.Digests
import SvelteTransform.Sandbox.Tools.Dump
import SvelteTransform.Sandbox.Tools.Encodings
import SvelteTransform.Sandbox.Tools.Factors
import SvelteTransform.Sandbox.Tools.Grep
import SvelteTransform.Sandbox.Tools.Identity
import SvelteTransform.Sandbox.Tools.Numbering
import SvelteTransform.Sandbox.Tools.Portions
import SvelteTransform.Sandbox.Tools.Quantities
import SvelteTransform.Sandbox.Tools.Repeated
import SvelteTransform.Sandbox.Tools.Sections
import SvelteTransform.Sandbox.Tools.Sed
import SvelteTransform.Sandbox.Tools.Shaping
import SvelteTransform.Sandbox.Tools.Sorted
import SvelteTransform.Sandbox.Tools.Sorting
import SvelteTransform.Sandbox.Tools.Tree
import SvelteTransform.Sandbox.Tools.Values

/-! The programs that start no other one. -/
namespace SvelteTransform.Sandbox.Tools

def printDirectory (c : Call) : Running Unit :=
  match c.files.pathTo? c.here with
  | some path => print (Octets.ofText path.spelling ++ ['\n'])
  | none => complain c (Octets.say s!"couldn't find directory entry in '..' with matching i-node")

def programs : List (String × (Call → Running Unit)) :=
  [("true", fun _ => pure ()), ("false", fun _ => fails 1), ("echo", echo), ("printf", printf),
   ("test", test), ("[", test), ("expr", expr), ("cat", cat), ("head", head), ("tail", tail),
   ("tac", tac), ("rev", rev), ("nl", nl), ("tr", tr), ("cut", cut), ("paste", paste),
   ("fold", fold), ("expand", expand), ("unexpand", unexpand), ("sort", sort), ("uniq", uniq), ("wc", wc), ("sed", Sed.sed),
   ("grep", Grep.grep), ("egrep", Grep.grep), ("fgrep", Grep.grep), ("tee", tee),
   ("dd", copyBytes), ("od", od), ("base64", Encodings.inAlphabet Encodings.base64),
   ("base32", Encodings.inAlphabet Encodings.base32), ("basenc", Encodings.anyAlphabet), ("cmp", cmp), ("cksum", Digests.cksum),
   ("sum", Digests.sum), ("md5sum", Digests.digestSum .md5), ("sha1sum", Digests.digestSum .sha1),
   ("sha224sum", Digests.digestSum .sha224), ("sha256sum", Digests.digestSum .sha256),
   ("sha384sum", Digests.digestSum .sha384), ("sha512sum", Digests.digestSum .sha512),
   ("b2sum", Digests.digestSum .blake2b), ("seq", seq), ("yes", yes), ("sleep", sleep),
   ("basename", basename), ("dirname", dirname), ("printenv", printenv), ("pwd", printDirectory),
   ("ls", ls), ("stat", stat), ("touch", touch), ("mkdir", mkdir), ("mkfifo", mkfifo),
   ("rmdir", rmdir), ("rm", rm), ("unlink", unlink), ("cp", cp), ("mv", mv), ("ln", ln),
   ("link", link), ("install", install), ("mktemp", mktemp), ("chmod", chmod),
   ("readlink", readlink), ("realpath", realpath), ("truncate", truncate), ("which", which),
   ("kill", kill), ("diff", Compare.diff), ("comm", comm), ("join", join),
   ("tsort", tsort), ("date", Dates.date), ("whoami", Identity.whoami),
   ("logname", Identity.logname), ("users", Identity.loggedIn), ("who", Identity.loggedIn),
   ("groups", Identity.groups), ("id", Identity.id), ("uname", Identity.uname),
   ("arch", Identity.arch), ("hostname", Identity.hostname), ("nproc", Identity.nproc),
   ("tty", Identity.tty), ("sync", Identity.sync), ("numfmt", Quantities.numfmt),
   ("factor", Factors.factor), ("shuf", Factors.shuf), ("split", Portions.split),
   ("csplit", Sections.csplit)]

def program (name : String) : Call → Running Unit :=
  (programs.lookup name).getD fun _ => pure ()

end SvelteTransform.Sandbox.Tools
