import SvelteTransform.Proofs.Config.Located

/-! The search in the root beside the search upward, for a file below the root. The way up from the
file comes by the root, so what is found there is lost to nothing but a nearer config. -/
namespace SvelteTransform.Config
open SvelteTransform.Path (Component Ascent)

inductive Inside (root filename : Path) : Prop where
  | relative (relative : filename.isAbsolute = false)
      (ordinary : ∃ name, Component.named name ∈ filename.components)
      (down : .above ∉ filename.components)
  | absolute (absolute : root.isAbsolute = true ∧ filename.isAbsolute = true)
      (rest : List Component) (whole : filename.components = root.components ++ rest)
      (strictly : rest ≠ []) (down : .above ∉ rest)

structure Between (root file directory : Path) : Prop where
  fromRoot : root.components <+: directory.components
  notRoot : directory.components ≠ root.components
  toFile : directory.components <+: file.components
  notFile : directory.components ≠ file.components

/-- Whether there is a file does not depend on how its path is spelled. -/
def Unspelled (isFile : Path → Bool) : Prop :=
  ∀ p q : Path, p.same q = true → isFile p = isFile q

structure Widened (isFile : Path → Bool) (root filename : Path) : Prop where
  kept : ∀ config, discover isFile root .auto filename = .ok config →
    ∃ found directory, discover isFile root .upward filename = .ok found ∧
      found.parent = some directory ∧ root.components <+: directory.components ∧
      (found.same config = true ↔
        ∀ nearer, Between root (root.join filename) nearer → ¬ Configured isFile nearer)
  returned : ∀ found directory, discover isFile root .upward filename = .ok found →
    found.parent = some directory → directory.same root = true →
    ∃ config, discover isFile root .auto filename = .ok config ∧ config.same found = true

theorem discoverRoot {isFile : Path → Bool} {root filename config : Path} :
    discover isFile root .auto filename = .ok config ↔
      Configured isFile root ∧ config = preferred isFile root := by
  rw [← inDirectorySome, discover]
  cases inDirectory isFile root with
  | none => exact ⟨nofun, nofun⟩
  | some other => simp only [Except.ok.injEq, Option.some.injEq]

theorem preferredComponents (isFile : Path → Bool) (directory : Path) :
    ∃ name ∈ fileNames,
      (preferred isFile directory).components = directory.components ++ [.named name.spelling] := by
  unfold preferred
  split
  · exact ⟨_, List.mem_cons_self, candidateComponents directory List.mem_cons_self⟩
  · have member : Path.ofString "svelte.config.cjs" ∈ fileNames :=
      List.mem_cons_of_mem _ List.mem_cons_self
    exact ⟨_, member, candidateComponents directory member⟩

section
variable {isFile : Path → Bool} (unspelled : Unspelled isFile) {a b : Path}
  (alike : a.components = b.components)
include unspelled alike

theorem candidateAlike (name : Path) (member : name ∈ fileNames) :
    isFile (a.join name) = isFile (b.join name) := by
  apply unspelled
  rw [Path.same, decide_eq_true_eq, candidateComponents a member, candidateComponents b member,
    alike]

theorem configuredAlike : Configured isFile a ↔ Configured isFile b := by
  unfold Configured
  refine exists_congr fun name => and_congr_right fun member => ?_
  rw [candidateAlike unspelled alike name member]

theorem preferredAlike :
    (preferred isFile a).components = (preferred isFile b).components := by
  unfold preferred
  have same := candidateAlike unspelled alike (.ofString "svelte.config.js") List.mem_cons_self
  rw [same]
  split
  · rw [candidateComponents a List.mem_cons_self, candidateComponents b List.mem_cons_self, alike]
  · have member : Path.ofString "svelte.config.cjs" ∈ fileNames :=
      List.mem_cons_of_mem _ List.mem_cons_self
    rw [candidateComponents a member, candidateComponents b member, alike]

end

theorem lastNamed {cs : List Component} (nonempty : cs ≠ [])
    (plain : ∀ c ∈ cs, c ≠ .root ∧ c ≠ .here) (down : .above ∉ cs) :
    ∃ front name, cs = front ++ [.named name] ∧ .root ∉ front := by
  rcases List.eq_nil_or_concat cs with rfl | ⟨front, last, rfl⟩
  · exact absurd rfl nonempty
  · rw [List.concat_eq_append] at plain down ⊢
    have notRoot : Component.root ∉ front := fun member =>
      (plain .root (List.mem_append_left _ member)).1 rfl
    have isLast : last ∈ front ++ [last] := List.mem_append_right _ (List.mem_singleton_self _)
    cases last with
    | root => exact absurd rfl (plain _ isLast).1
    | here => exact absurd rfl (plain _ isLast).2
    | above => exact absurd isLast down
    | named name => exact ⟨front, name, rfl, notRoot⟩

theorem relativeLast {filename : Path} (relative : filename.isAbsolute = false)
    (ordinary : ∃ name, Component.named name ∈ filename.components)
    (down : .above ∉ filename.components) :
    ∃ front name, Path.named (Path.cut filename.spelling) = front ++ [.named name] ∧
      .root ∉ front := by
  obtain ⟨name, member⟩ := ordinary
  have still : Component.named name ∈ Path.named (Path.cut filename.spelling) ∧
      .above ∉ Path.named (Path.cut filename.spelling) := by
    rcases Path.relativeNamed relative with plain | dotted
    · rw [plain] at member down
      exact ⟨member, down⟩
    · rw [dotted, List.mem_cons] at member down
      exact ⟨member.resolve_left nofun, fun back => down (.inr back)⟩
  exact lastNamed (List.ne_nil_of_mem still.1) (fun c => Path.namedPlain) still.2

theorem relativeBelow {root filename : Path} (relative : filename.isAbsolute = false)
    (ordinary : ∃ name, Component.named name ∈ filename.components)
    (down : .above ∉ filename.components) :
    ∃ front name, (root.join filename).components = root.components ++ (front ++ [.named name]) ∧
      .root ∉ front := by
  obtain ⟨front, last, whole, notRoot⟩ := relativeLast relative ordinary down
  -- An empty root leaves the file as it is spelled, with a `.` at its front that others drop.
  by_cases nothing : root.spelling = []
  · obtain ⟨text⟩ := root
    cases nothing
    have noParts : Path.components ⟨[]⟩ = [] := rfl
    rw [Path.joinNothing rfl, noParts]
    rcases Path.relativeNamed relative with plain | dotted
    · exact ⟨front, last, by rw [plain, whole, List.nil_append], notRoot⟩
    · refine ⟨.here :: front, last, by rw [dotted, whole, List.nil_append, List.cons_append], ?_⟩
      rw [List.mem_cons, not_or]
      exact ⟨nofun, notRoot⟩
  · exact ⟨front, last, by rw [Path.joinComponents nothing relative, whole], notRoot⟩

theorem absoluteBelow {root filename : Path} (absolute : filename.isAbsolute = true)
    (rootAbsolute : root.isAbsolute = true) {rest : List Component}
    (whole : filename.components = root.components ++ rest) (strictly : rest ≠ [])
    (down : .above ∉ rest) :
    ∃ front name, (root.join filename).components = root.components ++ (front ++ [.named name]) ∧
      .root ∉ front := by
  obtain ⟨names, ofRoot⟩ := Path.absoluteComponents rootAbsolute
  obtain ⟨segments, ofFile⟩ := Path.absoluteComponents absolute
  have after : Path.named segments = Path.named names ++ rest := by
    rw [ofRoot, ofFile, List.cons_append] at whole
    exact (List.cons.inj whole).2
  have plain : ∀ c ∈ rest, c ≠ .root ∧ c ≠ .here := fun c member => by
    have among : c ∈ Path.named segments := by
      rw [after]
      exact List.mem_append_right _ member
    exact Path.namedPlain among
  obtain ⟨front, name, parts, notRoot⟩ := lastNamed strictly plain down
  exact ⟨front, name, by rw [Path.join, if_pos absolute, whole, parts], notRoot⟩

theorem insideBelow {root filename : Path} (inside : Inside root filename) :
    ∃ front name, (root.join filename).components = root.components ++ (front ++ [.named name]) ∧
      .root ∉ front := by
  cases inside with
  | relative relative ordinary down => exact relativeBelow relative ordinary down
  | absolute absolute rest whole strictly down =>
    exact absoluteBelow absolute.2 absolute.1 whole strictly down

theorem lastName {p : Path} {cs : List Component} {name : Path.Segment}
    (whole : p.components = cs ++ [.named name]) : p.fileName ≠ none := by
  rw [Path.fileName, whole, List.getLast?_concat]
  exact nofun

theorem insideStart {root filename : Path} (inside : Inside root filename) :
    ∃ front name, (start root filename).components = root.components ++ front ∧
      (root.join filename).components = (start root filename).components ++ [.named name] ∧
      .root ∉ front := by
  obtain ⟨front, name, whole, notRoot⟩ := insideBelow inside
  rw [← List.append_assoc] at whole
  obtain ⟨last, parts⟩ := startParent (lastName whole)
  have same := List.append_inj_left' (parts.symm.trans whole) rfl
  exact ⟨front, last, same, parts, notRoot⟩

section
variable {root filename top : Path} {nearer further : List Path} {name : Path.Segment}
  (ascent : Ascent (start root filename) (nearer ++ top :: further))
  (isRoot : top.components = root.components)
  (parts : (root.join filename).components = (start root filename).components ++ [.named name])
include ascent isRoot parts

theorem nearerBetween {q : Path} (member : q ∈ nearer) : Between root (root.join filename) q := by
  have prefixes := Path.ascentPrefix ascent
  have toStart := prefixes q (List.mem_append_left _ member)
  have shorter : top.components.length < q.components.length :=
    (List.pairwise_append.mp (Path.ascentShrinks ascent)).2.2 q member top List.mem_cons_self
  have fromTop : top.components <+: q.components := List.prefix_of_prefix_length_le
    (prefixes top (List.mem_append_right _ List.mem_cons_self)) toStart (Nat.le_of_lt shorter)
  rw [isRoot] at fromTop shorter
  refine ⟨fromTop, fun same => ?_, ?_, fun same => ?_⟩
  · rw [same] at shorter
    exact Nat.lt_irrefl _ shorter
  · rw [parts]
    exact toStart.trans (List.prefix_append _ _)
  · have bound := toStart.length_le
    rw [same, parts, List.length_append, List.length_singleton] at bound
    exact Nat.not_succ_le_self _ bound

theorem betweenNearer {q : Path} (between : Between root (root.join filename) q) :
    ∃ p ∈ nearer, p.components = q.components := by
  obtain ⟨cs, fromTop, -, passes⟩ := Path.ascentPasses ascent
  obtain ⟨passed, split⟩ := between.fromRoot
  have toStart : q.components <+: (start root filename).components := by
    have toFile := between.toFile
    rw [parts, List.prefix_concat_iff, ← parts] at toFile
    exact toFile.resolve_left between.notFile
  rw [fromTop, isRoot, ← split, List.prefix_append_right_inj] at toStart
  obtain ⟨rest, whole⟩ := toStart
  have nonempty : passed ≠ [] := by
    rintro rfl
    rw [List.append_nil] at split
    exact between.notRoot split.symm
  obtain ⟨p, member, spelled⟩ := passes passed rest whole.symm nonempty
  exact ⟨p, member, by rw [spelled, isRoot, split]⟩

end

theorem insidePasses {root filename : Path} (inside : Inside root filename) :
    ∃ nearer top further, (start root filename).ancestors = nearer ++ top :: further ∧
      top.components = root.components ∧ (∀ q ∈ nearer, Between root (root.join filename) q) ∧
      ∀ q, Between root (root.join filename) q → ∃ p ∈ nearer, p.components = q.components := by
  obtain ⟨front, name, below, parts, notRoot⟩ := insideStart inside
  have ascent := Path.ancestorsAscend (start root filename)
  obtain ⟨nearer, top, further, whole, isRoot⟩ := Path.ascentReaches ascent below notRoot
  rw [whole] at ascent
  exact ⟨nearer, top, further, whole, isRoot, fun q => nearerBetween ascent isRoot parts,
    fun q => betweenNearer ascent isRoot parts⟩

theorem foundParent {isFile : Path → Bool} {directory found : Path}
    (parent : (preferred isFile directory).parent = some found) :
    found.components = directory.components := by
  obtain ⟨name, -, spelled⟩ := preferredComponents isFile directory
  obtain ⟨last, -, whole⟩ := Path.parentComponents parent
  exact List.append_inj_left' (whole.symm.trans spelled) rfl

theorem foundHasParent (isFile : Path → Bool) (directory : Path) :
    ∃ found, (preferred isFile directory).parent = some found := by
  obtain ⟨name, -, spelled⟩ := preferredComponents isFile directory
  obtain ⟨found, -, parent, -⟩ := namedParent (lastName spelled)
  exact ⟨found, parent⟩

section
variable {isFile : Path → Bool} {root filename : Path}

theorem upwardFound {found : Path} (result : discover isFile root .upward filename = .ok found) :
    ∃ nearer directory further,
      (start root filename).ancestors = nearer ++ directory :: further ∧
      (∀ d ∈ nearer, ¬ Configured isFile d) ∧ Configured isFile directory ∧
      found = preferred isFile directory := by
  rw [discoverSearched] at result
  exact ((searchedNearest isFile _ _).found found).mp result

theorem stopReached {nearer further before after : List Path} {top directory : Path}
    (same : nearer ++ top :: further = before ++ directory :: after) (late : top ∉ before) :
    directory ∈ nearer ∨ directory = top ∧ before = nearer := by
  rcases List.append_eq_append_iff.mp same with ⟨more, whole, rest⟩ | ⟨more, whole, rest⟩
  · cases more with
    | nil => exact .inr ⟨(List.cons.inj rest).1.symm, by rw [whole, List.append_nil]⟩
    | cons first more =>
      rw [← (List.cons.inj rest).1] at whole
      rw [whole] at late
      exact absurd (List.mem_append_right _ List.mem_cons_self) late
  · cases more with
    | nil => exact .inr ⟨(List.cons.inj rest).1, by rw [whole, List.append_nil]⟩
    | cons first more =>
      rw [← (List.cons.inj rest).1] at whole
      rw [whole]
      exact .inl (List.mem_append_right _ List.mem_cons_self)

theorem upwardStops (unspelled : Unspelled isFile) (inside : Inside root filename)
    (configured : Configured isFile root) :
    ∃ directory, discover isFile root .upward filename = .ok (preferred isFile directory) ∧
      Configured isFile directory ∧ (Between root (root.join filename) directory ∨
        directory.components = root.components ∧
          ∀ q, Between root (root.join filename) q → ¬ Configured isFile q) := by
  obtain ⟨nearer, top, further, whole, isRoot, between, passed⟩ := insidePasses inside
  -- The root is on the way up in some spelling, so the search ends there at the latest.
  have topConfigured := (configuredAlike unspelled isRoot).mpr configured
  have atTop : top ∈ (start root filename).ancestors := by
    rw [whole]
    exact List.mem_append_right _ List.mem_cons_self
  obtain ⟨found, result⟩ :=
    (searchedNearest isFile (start root filename) _).succeeds.mpr ⟨top, atTop, topConfigured⟩
  rw [← discoverSearched] at result
  obtain ⟨before, directory, after, split, bare, here, rfl⟩ := upwardFound result
  refine ⟨directory, result, here, ?_⟩
  rcases stopReached (whole.symm.trans split) fun early => bare top early topConfigured with
    early | ⟨rfl, rfl⟩
  · exact .inl (between directory early)
  · refine .inr ⟨isRoot, fun q isBetween hasConfig => ?_⟩
    obtain ⟨p, member, same⟩ := passed q isBetween
    exact bare p member ((configuredAlike unspelled same).mpr hasConfig)

/-- A config in the root is found by the search upward as well, or else a nearer one; and one that
is found in the root from below is the one that is found in the root. -/
theorem widened (unspelled : Unspelled isFile) (inside : Inside root filename) :
    Widened isFile root filename := by
  refine ⟨fun config result => ?_, fun found directory result parent isRoot => ?_⟩
  · obtain ⟨configured, rfl⟩ := discoverRoot.mp result
    obtain ⟨directory, upward, here, place⟩ := upwardStops unspelled inside configured
    obtain ⟨above, parent⟩ := foundHasParent isFile directory
    have spelled := foundParent parent
    refine ⟨_, above, upward, parent, ?_, ?_⟩
    · rw [spelled]
      rcases place with between | ⟨isRoot, -⟩
      · exact between.fromRoot
      · exact ⟨[], by rw [List.append_nil, isRoot]⟩
    · rw [Path.same, decide_eq_true_eq]
      rcases place with between | ⟨isRoot, nothing⟩
      · constructor
        · intro same
          obtain ⟨name, -, one⟩ := preferredComponents isFile directory
          obtain ⟨other, -, two⟩ := preferredComponents isFile root
          rw [one, two] at same
          exact absurd (List.append_inj_left' same rfl) between.notRoot
        · intro nothing
          exact absurd here (nothing directory between)
      · exact ⟨fun _ => nothing, fun _ => preferredAlike unspelled isRoot⟩
  · obtain ⟨-, place, -, -, -, configured, rfl⟩ := upwardFound result
    rw [Path.same, decide_eq_true_eq, foundParent parent] at isRoot
    refine ⟨preferred isFile root,
      discoverRoot.mpr ⟨(configuredAlike unspelled isRoot).mp configured, rfl⟩, ?_⟩
    rw [Path.same, decide_eq_true_eq]
    exact (preferredAlike unspelled isRoot).symm

end

def among (files : List Path) (p : Path) : Bool := files.any p.same

theorem amongUnspelled (files : List Path) : Unspelled (among files) := by
  intro p q same
  have alike : p.components = q.components := of_decide_eq_true same
  have both : p.same = q.same := by
    funext file
    rw [Path.same, Path.same, alike]
  rw [among, among, both]

theorem nearerWins :
    Unspelled (among [.ofString "/app/svelte.config.js", .ofString "/app/src/svelte.config.cjs"]) ∧
    Inside (.ofString "/app/.") (.ofString "./src//lib/App.svelte") ∧
    Widened (among [.ofString "/app/svelte.config.js", .ofString "/app/src/svelte.config.cjs"])
      (.ofString "/app/.") (.ofString "./src//lib/App.svelte") := by
  have whole : (Path.ofString "./src//lib/App.svelte").components =
      [.here, .named "src".toList, .named "lib".toList, .named "App.svelte".toList] := by rfl
  have inside : Inside (.ofString "/app/.") (.ofString "./src//lib/App.svelte") := by
    refine .relative rfl ⟨"src".toList, ?_⟩ ?_
    · rw [whole]
      decide
    · rw [whole]
      decide
  exact ⟨amongUnspelled _, inside, widened (amongUnspelled _) inside⟩

example : discover (among [.ofString "/app/svelte.config.js",
      .ofString "/app/src/svelte.config.cjs"]) (.ofString "/app/.") .upward
      (.ofString "./src//lib/App.svelte") = .ok (.ofString "/app/././src/svelte.config.cjs") := by
  cbv

end SvelteTransform.Config
