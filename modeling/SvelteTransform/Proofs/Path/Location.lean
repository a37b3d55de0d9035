import SvelteTransform.Proofs.Path.Ascent

/-! What paths denote in a tree of files without links, where `..` is the directory above. The way
up a spelling and the way up the tree are two things. -/
namespace SvelteTransform
open SvelteTransform.Path (Component Ascent)

abbrev Location := List Path.Segment

def Path.Component.move (l : Location) : Component → Location
  | .root => []
  | .here => l
  | .above => l.dropLast
  | .named name => l ++ [name]

def Path.location (here : Location) (p : Path) : Location :=
  p.components.foldl Component.move here

theorem Path.locationJoin (here : Location) (p q : Path) :
    (p.join q).location here = q.location (p.location here) := by
  unfold Path.location
  cases absolute : q.isAbsolute with
  | true =>
    obtain ⟨names, whole⟩ := Path.absoluteComponents absolute
    rw [Path.join, if_pos absolute, whole]
    rfl
  | false =>
    by_cases nothing : p.spelling = []
    · obtain ⟨text⟩ := p
      cases nothing
      rw [Path.joinNothing rfl]
      rfl
    · rw [Path.joinComponents nothing absolute, List.foldl_append]
      rcases Path.relativeNamed absolute with plain | dotted
      · rw [plain]
      · rw [dotted]
        rfl

/-- Every directory on the way up the spelling is on the way up the tree as well. -/
def Path.Straight (here : Location) (p : Path) : Prop :=
  ∀ q ∈ p.ancestors, q.location here <+: p.location here

theorem Path.ascentStraight {here : Location} {p : Path} {paths : List Path}
    (ascent : Ascent p paths) (down : .above ∉ p.components) :
    ∀ q ∈ paths, q.location here <+: p.location here := by
  induction ascent with
  | top =>
    intro q member
    obtain rfl := List.mem_singleton.mp member
    exact List.prefix_refl _
  | @up p q paths parent further ih =>
    obtain ⟨last, notRoot, whole⟩ := Path.parentComponents parent
    rw [whole, List.mem_append, not_or, List.mem_singleton] at down
    have deeper : q.location here <+: p.location here := by
      unfold Path.location
      rw [whole, List.foldl_append]
      cases last with
      | root => exact absurd rfl notRoot
      | here => exact List.prefix_refl _
      | above => exact absurd rfl down.2
      | named name => exact List.prefix_append _ _
    intro d member
    rcases List.mem_cons.mp member with rfl | above
    · exact List.prefix_refl _
    · exact (ih down.1 d above).trans deeper

theorem Path.straightDown {p : Path} (down : .above ∉ p.components) (here : Location) :
    p.Straight here :=
  Path.ascentStraight (Path.ancestorsAscend p) down

def Location.leadsTo (places : List Location) (l : Location) : Bool :=
  l = [] || places.any (l.isPrefixOf ·)

theorem Location.leadsToMember {places : List Location} {l : Location} (member : l ∈ places) :
    l.leadsTo places = true := by
  have present : places.any (l.isPrefixOf ·) = true :=
    List.any_eq_true.mpr ⟨l, member, List.isPrefixOf_iff_prefix.mpr (List.prefix_refl l)⟩
  rw [Location.leadsTo, present, Bool.or_true]

theorem Location.leadsToAbove {places : List Location} {l : Location} {name : Path.Segment}
    (leads : Location.leadsTo places (l ++ [name]) = true) : l.leadsTo places = true := by
  rw [Location.leadsTo, decide_eq_false (List.concat_ne_nil name l), Bool.false_or,
    List.any_eq_true] at leads
  obtain ⟨place, member, below⟩ := leads
  have present : places.any (l.isPrefixOf ·) = true :=
    List.any_eq_true.mpr ⟨place, member, List.isPrefixOf_iff_prefix.mpr
      ((List.prefix_append l [name]).trans (List.isPrefixOf_iff_prefix.mp below))⟩
  rw [Location.leadsTo, present, Bool.or_true]

/-- Files and directories; nothing is both, and what there is, is in a directory. -/
structure FileTree where
  file : Location → Bool
  directory : Location → Bool
  apart : ∀ l, file l = true → directory l = false
  root : directory [] = true
  fileInside : ∀ l name, file (l ++ [name]) = true → directory l = true
  directoryInside : ∀ l name, directory (l ++ [name]) = true → directory l = true

namespace FileTree

def of (files directories : List Location) : FileTree where
  file l := files.contains l && !Location.leadsTo (directories ++ files.map List.dropLast) l
  directory := Location.leadsTo (directories ++ files.map List.dropLast)
  apart _ file := (Bool.not_eq_true' _).mp (Bool.and_eq_true_iff.mp file).2
  root := rfl
  fileInside l name file := Location.leadsToMember (List.mem_append_right directories
    (List.mem_map.mpr ⟨l ++ [name], List.contains_iff_mem.mp (Bool.and_eq_true_iff.mp file).1,
      List.dropLast_concat⟩))
  directoryInside _ _ := Location.leadsToAbove

theorem ofFile {file place : Location} {directories : List Location}
    (apart : (of [file] directories).directory file = false) :
    (of [file] directories).file place = true ↔ place = file := by
  constructor
  · intro there
    exact List.mem_singleton.mp (List.contains_iff_mem.mp (Bool.and_eq_true_iff.mp there).1)
  · rintro rfl
    exact Bool.and_eq_true_iff.mpr
      ⟨List.contains_iff_mem.mpr (List.mem_singleton_self _), (Bool.not_eq_true' _).mpr apart⟩

theorem ofDirectoryBelow {file place : Location} {directories : List Location}
    (there : (of [file] directories).directory place = true) :
    place = [] ∨ (∃ below ∈ directories, place <+: below) ∨ place <+: file.dropLast := by
  rcases Bool.or_eq_true_iff.mp there with isRoot | inside
  · exact .inl (of_decide_eq_true isRoot)
  · obtain ⟨below, member, isPrefix⟩ := List.any_eq_true.mp inside
    have above := List.isPrefixOf_iff_prefix.mp isPrefix
    rcases List.mem_append.mp member with given | last
    · exact .inr (.inl ⟨below, given, above⟩)
    · rw [List.map_singleton, List.mem_singleton] at last
      exact .inr (.inr (last ▸ above))

theorem ofDirectory (files : List Location) {directories : List Location} {place : Location}
    (member : place ∈ directories) : (of files directories).directory place = true :=
  Location.leadsToMember (List.mem_append_left _ member)

variable {t : FileTree}

def enter (t : FileTree) (l : Location) (c : Component) : Option Location :=
  if c = .root || t.directory l then some (c.move l) else none

def reach (t : FileTree) (here : Location) (p : Path) : Option Location :=
  p.components.foldlM t.enter here

def isFile (t : FileTree) (here : Location) (p : Path) : Bool := (t.reach here p).any t.file

theorem entered {l m : Location} {c : Component} (step : t.enter l c = some m) : m = c.move l := by
  unfold enter at step
  split at step
  · exact (Option.some.inj step).symm
  · cases step

theorem walked {cs : List Component} {l m : Location} (walk : cs.foldlM t.enter l = some m) :
    m = cs.foldl Component.move l := by
  induction cs generalizing l with
  | nil => exact (Option.some.inj walk).symm
  | cons c cs ih =>
    rw [List.foldlM_cons, Option.bind_eq_bind, Option.bind_eq_some_iff] at walk
    obtain ⟨next, step, walk⟩ := walk
    rw [entered step] at walk
    exact ih walk

theorem reachedTop (t : FileTree) (here : Location) {p : Path} (top : p.parent = none) :
    t.reach here p = some (p.location here) := by
  unfold reach Path.location
  rcases Path.parentless top with whole | whole
  · rw [whole]
    rfl
  · rw [whole]
    rfl

theorem reachedAll {here : Location} {p : Path} {paths : List Path} (ascent : Ascent p paths)
    (present : ∀ q ∈ paths, t.directory (q.location here) = true) :
    ∀ q ∈ paths, t.reach here q = some (q.location here) := by
  induction ascent with
  | top parentless =>
    intro q member
    obtain rfl := List.mem_singleton.mp member
    exact t.reachedTop here parentless
  | @up p q paths parent further ih =>
    have above := ih fun d member => present d (List.mem_cons_of_mem p member)
    have head := Path.ascentHead further
    have opens := present q (List.mem_cons_of_mem p head)
    have reached := above q head
    intro d member
    rcases List.mem_cons.mp member with rfl | member
    · obtain ⟨last, -, whole⟩ := Path.parentComponents parent
      unfold reach Path.location at reached ⊢
      rw [whole, List.foldlM_append, List.foldl_append, reached]
      change t.enter (q.location here) last >>= some = _
      rw [enter, opens, Bool.or_true, if_pos rfl]
      rfl
    · exact above d member

theorem directoryAbove {l more : Location} (directory : t.directory (l ++ more) = true) :
    t.directory l = true := by
  induction more generalizing l with
  | nil => rwa [List.append_nil] at directory
  | cons name more ih =>
    rw [List.append_cons] at directory
    exact t.directoryInside l name (ih directory)

theorem passedThrough {cs : List Component} {l e : Location} (rootless : .root ∉ cs)
    (line : ∀ passed rest, cs = passed ++ rest →
      passed.foldl Component.move l <+: cs.foldl Component.move l)
    (below : l <+: e) (above : e <+: cs.foldl Component.move l)
    (directory : t.directory e = true) :
    ∃ passed rest, cs = passed ++ rest ∧ passed.foldlM t.enter l = some e := by
  -- Until the walk comes to `e` it is at a place above `e`, which is a directory like `e`.
  induction cs generalizing l with
  | nil => exact ⟨[], [], rfl, congrArg some (below.eq_of_length_le above.length_le)⟩
  | cons c cs ih =>
    by_cases same : l = e
    · exact ⟨[], c :: cs, rfl, congrArg some same⟩
    · rw [List.mem_cons, not_or] at rootless
      have shorter : l.length < e.length :=
        Nat.lt_of_not_le fun long => same (below.eq_of_length_le long)
      have opens : t.enter l c = some (c.move l) := by
        obtain ⟨more, rfl⟩ := below
        rw [enter, directoryAbove directory, Bool.or_true, if_pos rfl]
      have further : c.move l <+: e := by
        cases c with
        | root => exact absurd rfl rootless.1
        | here => exact below
        | above => exact (List.dropLast_prefix l).trans below
        | named name =>
          refine List.prefix_of_prefix_length_le (line [.named name] cs rfl) above ?_
          rw [Component.move, List.length_append]
          exact shorter
      obtain ⟨passed, rest, whole, walk⟩ := ih rootless.2
        (fun passed rest whole => line (c :: passed) rest (by rw [whole]; rfl)) further above
      refine ⟨c :: passed, rest, by rw [whole]; rfl, ?_⟩
      rw [List.foldlM_cons, opens]
      exact walk

theorem reachedBetween {here e : Location} {p d : Path} {nearer further : List Path}
    (ascent : Ascent p (nearer ++ d :: further))
    (straight : ∀ q ∈ nearer ++ d :: further, q.location here <+: p.location here)
    (reached : t.reach here d = some (d.location here)) (below : d.location here <+: e)
    (above : e <+: p.location here) (directory : t.directory e = true) :
    e = d.location here ∨ ∃ q ∈ nearer, t.reach here q = some e := by
  obtain ⟨cs, whole, rootless, passes⟩ := Path.ascentPasses ascent
  have down : p.location here = cs.foldl Component.move (d.location here) := by
    unfold Path.location
    rw [whole, List.foldl_append]
  have line : ∀ passed rest, cs = passed ++ rest →
      passed.foldl Component.move (d.location here) <+:
        cs.foldl Component.move (d.location here) := by
    intro passed rest parts
    rw [← down]
    by_cases nothing : passed = []
    · rw [nothing]
      exact straight d (List.mem_append_right _ List.mem_cons_self)
    · obtain ⟨q, member, spelled⟩ := passes passed rest parts nothing
      have here := straight q (List.mem_append_left _ member)
      rw [Path.location, spelled, List.foldl_append] at here
      exact here
  rw [down] at above
  obtain ⟨passed, rest, parts, walk⟩ := passedThrough rootless line below above directory
  by_cases nothing : passed = []
  · rw [nothing] at walk
    exact .inl (Option.some.inj walk).symm
  · obtain ⟨q, member, spelled⟩ := passes passed rest parts nothing
    refine .inr ⟨q, member, ?_⟩
    rw [reach, spelled, List.foldlM_append]
    unfold reach at reached
    rw [reached]
    exact walk

end FileTree
end SvelteTransform
