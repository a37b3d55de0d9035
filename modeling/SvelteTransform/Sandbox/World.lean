import SvelteTransform.Sandbox.Octets
import SvelteTransform.Sandbox.Files
import SvelteTransform.Worker.Capture

/-! What processes share: files, what they have open, and what they have written to whoever
collects it. Time passes only when somebody sleeps. A process that runs beside the others goes on
when it wakes up; what it does until it sleeps again depends on nothing but the scenes it has woken
up to. -/
namespace SvelteTransform.Sandbox

def pathOf (octets : Octets) : Path := ⟨Octets.toText octets⟩

inductive Target where
  | sink (number : Nat)
  | stream (sink : Nat)
  | source (left : Octets)
  | file (inode : Inode)
  | pipe (inode : Inode)
  | directory
  | device (device : Device)

structure OpenFile where
  target : Target
  reads : Bool
  writes : Bool
  appends : Bool := false
  offset : Nat := 0
  drained : Bool := false

structure Chunk where
  time : Nat
  text : Octets

structure Watch where
  sink : Nat
  limit : Nat
  process : Nat
  written : Nat := 0

structure Scene where
  files : Files
  opened : List (Nat × OpenFile) := []
  sinks : List (Nat × List Chunk) := []
  closed : List Nat := []
  watch : Option Watch := none
  unused : Nat := 0
  held : Nat := 0
  clock : Nat := 0
  lastProcess : Nat := 4710
  signals : List (Nat × Nat) := []

structure Pause where
  wakes : Nat
  sinks : List Nat
  scene : Scene

inductive Stretch where
  | sleeps (pause : Pause)
  | ends (scene : Scene) (status : Option Worker.ExitStatus)

inductive Phase where
  | asleep (wakes : Nat) (sinks : List Nat)
  | ended (time status : Nat)
  | endless
  deriving DecidableEq, Repr

structure Background where
  number : Nat
  run : List Scene → (again : Bool) → Stretch
  woken : List Scene := []
  phase : Phase
  isGone : Bool := false

inductive Stop where
  | asleep (pause : Pause)
  | expired

structure World extends Scene where
  patience : Nat := Files.endless
  ceiling : Nat := 2 * Files.endless
  cut : Bool := false
  beside : List Background := []
  ahead : Option (List Scene × Bool) := none
  deadline : Option Nat := none
  holding : List Nat := []
  stopped : Option Stop := none

abbrev Descriptors := List (Nat × Nat)

namespace World

def add (w : World) (o : OpenFile) : Nat × World :=
  (w.unused, { w with opened := (w.unused, o) :: w.opened, unused := w.unused + 1 })

def replace (w : World) (id : Nat) (o : OpenFile) : World :=
  { w with opened := w.opened.map fun (i, old) => (i, if i = id then o else old) }

def addSink (w : World) : Nat × Nat × World :=
  let sink := w.unused
  let w := { w with sinks := (sink, []) :: w.sinks, unused := sink + 1 }
  let (id, w) := w.add { target := .sink sink, reads := false, writes := true }
  (sink, id, w)

def chunks (w : World) (sink : Nat) : List Octets :=
  let chunks := ((w.sinks.lookup sink).getD []).reverse
  let inOrder := (chunks.zip chunks.tail).all fun (a, b) => a.time ≤ b.time
  (if inOrder then chunks else chunks.mergeSort fun a b => a.time ≤ b.time).map (·.text)

def collected (w : World) (sink : Nat) : Octets :=
  match w.chunks sink with
  | [text] => text
  | texts => texts.flatten

def isFlooded (w : World) : Bool := w.ceiling < w.held

def withPatience (w : World) (patience : Nat) : World :=
  { w with patience, ceiling := min w.ceiling (w.held + 2 * patience), cut := false }

def close (w : World) (sink : Nat) : World := { w with closed := sink :: w.closed }

def pipeSize : Nat := 65536 + 8192

def heed (w : World) (ahead : Nat) : World :=
  match w.watch with
  | some watch =>
    if watch.limit + ahead < watch.written then
      { w.close watch.sink with
        signals := w.signals ++ [(watch.process, 9)]
        watch := none }
    else w
  | none => w

def dropSink (w : World) (sink id : Nat) : World :=
  let dropped := (w.sinks.lookup sink).getD []
  { w with
    sinks := w.sinks.filter (·.1 != sink)
    opened := w.opened.filter (·.1 != id)
    held := dropped.foldl (· - ·.text.length) w.held }

def epoch : Nat := 1750000000000

def timed (w : World) : World := { w with files := { w.files with now := epoch + w.clock } }

def masked (w : World) (mask : Nat) : World := { w with files := { w.files with mask } }

def overwrite (content : Text.Bytes) (offset : Nat) (bytes : Text.Bytes) : Text.Bytes :=
  let before := content.take offset
  before ++ List.replicate (offset - before.length) 0 ++ bytes ++ content.drop (offset + bytes.length)

def writeFile (w : World) (id : Nat) (o : OpenFile) (inode : Inode) (text : Octets) : World :=
  let bytes := Octets.toBytes text
  let w := w.timed
  match w.files.node? inode with
  | some (.file content) =>
    let start := if o.appends then content.length else o.offset
    let node := Node.file (overwrite content start bytes)
    { w with files := w.files.replace inode node }.replace id
      { o with offset := start + bytes.length }
  | some (.pipe held) => { w with files := w.files.replace inode (.pipe (held ++ bytes)) }
  | _ => w

def write (w : World) (id : Nat) (text : Octets) : Except SystemError World :=
  match w.opened.lookup id with
  | none => .error .badDescriptor
  | some o =>
    if !o.writes then .error .badDescriptor
    else if text = [] then .ok w
    else match o.target with
      | .sink number =>
        let put (chunks : List Chunk) : List Chunk := ⟨w.clock, text⟩ :: chunks
        let seen (watch : Watch) : Watch := if watch.sink = number then
          { watch with written := watch.written + text.length } else watch
        if w.closed.contains number then .error .brokenPipe
        else
          let w := { w with
            sinks := w.sinks.map fun (n, chunks) => (n, if n = number then put chunks else chunks)
            watch := w.watch.map seen
            held := w.held + text.length }
          .ok (w.heed pipeSize)
      | .file inode | .pipe inode => .ok (w.writeFile id o inode text)
      | .device .full => .error .noSpace
      | .device _ => .ok w
      | .stream _ | .source _ | .directory => .error .badDescriptor

def unread (w : World) (id : Nat) : Except SystemError Octets :=
  match w.opened.lookup id with
  | none => .error .badDescriptor
  | some o =>
    if !o.reads then .error .badDescriptor
    else match o.target with
      | .source left => .ok left
      | .stream sink => .ok ((w.collected sink).drop o.offset)
      | .file inode | .pipe inode =>
        match w.files.node? inode with
        | some (.file content) => .ok (Octets.ofBytes (content.drop o.offset))
        | some (.pipe held) => .ok (Octets.ofBytes held)
        | _ => .ok []
      | .device .random => .ok (Octets.noise w.patience)
      | .device .zero | .device .full => .ok (List.replicate w.patience '\x00')
      | .device _ => .ok []
      | .directory => .error .isDirectory
      | .sink _ => .error .badDescriptor

def pass (w : World) (id : Nat) (count : Nat) : World :=
  match w.opened.lookup id with
  | none => w
  | some o =>
    match o.target with
    | .source left =>
      let left := left.drop count
      w.replace id { o with target := .source left, drained := o.drained || left.isEmpty }
    | .file _ | .stream _ => w.replace id { o with offset := o.offset + count }
    | .pipe inode =>
      match w.files.node? inode with
      | some (.pipe held) => { w with files := w.files.replace inode (.pipe (held.drop count)) }
      | _ => w
    | _ => w

def passAll (w : World) (id : Nat) (count : Nat) : World :=
  match w.opened.lookup id with
  | none => w
  | some o =>
    match o.target with
    | .source left =>
      w.replace id { o with target := .source [], drained := o.drained || (left.drop count).isEmpty }
    | _ => w.pass id ((w.unread id).toOption.getD []).length

def isEndless (w : World) (id : Nat) : Bool :=
  match w.opened.lookup id with
  | some { target := .device device, .. } => device.isEndless
  | _ => false

def isSeekable (w : World) (id : Nat) : Bool :=
  match w.opened.lookup id with
  | some { target := .file _, .. } => true
  | _ => false

inductive Way where
  | read
  | write
  | append
  | readWrite
  | create
  deriving DecidableEq, Repr

def openPath (w : World) (here : Inode) (descriptors : Descriptors) (path : Path)
    (way : Way) : Except SystemError (Nat × World) := do
  let w := w.timed
  let put (w : World) (target : Target) : Nat × World := w.add {
    target
    reads := way = .read || way = .readWrite
    writes := way != .read
    appends := way = .append }
  let found ← if way = .read then w.files.find here path else w.files.findToWrite here path
  match found with
  | .node _ (.device (.descriptor n)) =>
    match descriptors.lookup n with
    | some id => return (id, w)
    | none => throw .notFound
  | .node _ (.device d) => return put w (.device d)
  | .node inode (.file _) =>
    match way with
    | .create => throw .alreadyExists
    | .write =>
      return put { w with files := w.files.replace inode (.file []) } (.file inode)
    | _ => return put w (.file inode)
  | .node inode (.pipe _) => return put w (.pipe inode)
  | .node _ (.tool tool) =>
    if way = .read then
      return put w (.source (Octets.ofBytes ((Files.content (.tool tool)).toOption.getD [])))
    else throw .textBusy
  | .node _ .directory => if way = .read then return put w .directory else throw .isDirectory
  | .node _ (.link _) => throw .linkLoop
  | .absent place =>
    if way = .read then throw .notFound
    else return put { w with files := w.files.create place (.file []) } (.file w.files.unused)

end World
end SvelteTransform.Sandbox
