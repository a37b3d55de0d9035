import SvelteTransform.Sandbox.Calendar
import SvelteTransform.Sandbox.Permissions
import SvelteTransform.Sandbox.Tools.Text

/-! What programs tell about things among the files: sizes, links, times and permissions. -/
namespace SvelteTransform.Sandbox.Tools.Facts

def size : Node → Nat
  | .file content => content.length
  | .link target => (Octets.ofText target.spelling).length
  | .directory => 4096
  | .device _ | .pipe _ => 0
  | .tool tool => ((Files.content (.tool tool)).toOption.getD []).length

def room : Node → Nat
  | .file content => (content.length + 4095) / 4096 * 4096
  | .directory | .tool _ => 4096
  | .link _ | .device _ | .pipe _ => 0

def links (files : Files) (inode : Inode) : Nat :=
  if files.node? inode = some .directory then
    2 + (files.children inode).countP fun (_, inside) => files.node? inside = some .directory
  else files.entries.countP (·.2 = inode)

def kindName : Node → String
  | .directory => "directory"
  | .link _ => "symbolic link"
  | .file content => if content = [] then "regular empty file" else "regular file"
  | .tool _ => "regular file"
  | .device _ => "character special file"
  | .pipe _ => "fifo"

def kindBits : Node → Nat
  | .pipe _ => 0x1000
  | .device _ => 0x2000
  | .directory => 0x4000
  | .file _ | .tool _ => 0x8000
  | .link _ => 0xa000

def moment (files : Files) (inode : Inode) : Calendar.Moment := .ofMilliseconds (files.time inode)

def letters (files : Files) (inode : Inode) (node : Node) : Octets :=
  Permissions.kindLetter node :: Permissions.letters (files.mode inode)

def withUnit (units : List Char) (base n : Nat) : Octets :=
  let rec go : (divisor : Nat) → List Char → Octets
    | divisor, unit :: more =>
      let whole := (n + divisor - 1) / divisor
      let tenths := (n * 10 + divisor - 1) / divisor
      if base ≤ whole && more != [] then go (divisor * base) more
      else if tenths < 100 then
        Octets.ofInt (tenths / 10 : Nat) ++ '.' :: Octets.ofInt (tenths % 10 : Nat) ++ [unit]
      else Octets.ofInt whole ++ [unit]
    | _, [] => Octets.ofInt n
  if n < base then Octets.ofInt n else go base units

def readable (n : Nat) : Octets := withUnit "KMGTPE".toList 1024 n

end SvelteTransform.Sandbox.Tools.Facts
