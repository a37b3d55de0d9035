import Mathlib.Data.List.MinMax
import SvelteTransform.Proofs.Config.Nearest
import SvelteTransform.Proofs.Path.Location

/-! The search upward by what paths denote. It goes up the spelling of the file: where that is
straight, the config is the one of the nearest directory above the file. -/
namespace SvelteTransform.Config
open SvelteTransform.Path (Component Ascent)

variable {t : FileTree} {here : Location}

theorem candidateComponents (directory : Path) {name : Path} (member : name ∈ fileNames) :
    (directory.join name).components = directory.components ++ [.named name.spelling] := by
  have plain : name.isAbsolute = false ∧ name.components = [.named name.spelling] ∧
      Path.named (Path.cut name.spelling) = [.named name.spelling] := by
    rcases List.mem_cons.mp member with rfl | member
    · exact ⟨rfl, rfl, rfl⟩
    · obtain rfl := List.mem_singleton.mp member
      exact ⟨rfl, rfl, rfl⟩
  obtain ⟨relative, alone, named⟩ := plain
  by_cases nothing : directory.spelling = []
  · obtain ⟨text⟩ := directory
    cases nothing
    rw [Path.joinNothing rfl, alone]
    rfl
  · rw [Path.joinComponents nothing relative, named]

theorem candidateLocation (directory : Path) {name : Path} (member : name ∈ fileNames) :
    (directory.join name).location here = directory.location here ++ [name.spelling] := by
  unfold Path.location
  rw [candidateComponents directory member, List.foldl_append]
  rfl

theorem candidateFile {directory name : Path} (member : name ∈ fileNames) :
    t.isFile here (directory.join name) = true ↔
      ∃ l, t.reach here directory = some l ∧ t.file (l ++ [name.spelling]) = true := by
  have last : t.reach here (directory.join name) =
      (t.reach here directory).bind fun l => t.enter l (.named name.spelling) := by
    unfold FileTree.reach
    simp only [candidateComponents directory member, List.foldlM_append, List.foldlM_cons,
      List.foldlM_nil, bind_pure]
    rfl
  rw [FileTree.isFile, last]
  cases t.reach here directory with
  | none =>
    constructor
    · intro file
      cases file
    · rintro ⟨l, same, -⟩
      cases same
  | some l =>
    rw [Option.bind_some, FileTree.enter]
    constructor
    · intro file
      cases inside : t.directory l with
      | true =>
        rw [inside] at file
        exact ⟨l, rfl, file⟩
      | false =>
        rw [inside] at file
        cases file
    · rintro ⟨m, same, file⟩
      rw [← Option.some.inj same] at file
      rw [t.fileInside l name.spelling file]
      exact file

def ConfiguredAt (t : FileTree) (l : Location) : Prop :=
  ∃ name ∈ fileNames, t.file (l ++ [name.spelling]) = true

theorem configuredDirectory {l : Location} (configured : ConfiguredAt t l) :
    t.directory l = true := by
  obtain ⟨name, -, file⟩ := configured
  exact t.fileInside l name.spelling file

theorem reachedConfigured {l : Location} {directory : Path}
    (reached : t.reach here directory = some l) :
    Configured (t.isFile here) directory ↔ ConfiguredAt t l := by
  constructor
  · rintro ⟨name, member, file⟩
    obtain ⟨m, same, file⟩ := (candidateFile member).mp file
    rw [reached] at same
    exact ⟨name, member, by rwa [Option.some.inj same]⟩
  · rintro ⟨name, member, file⟩
    exact ⟨name, member, (candidateFile member).mpr ⟨l, reached, file⟩⟩

def fileDirectory (here : Location) (root filename : Path) : Location :=
  (filename.location (root.location here)).dropLast

/-- Of the places from a top down to the directory of the file, the nearest to the file that has a
config is the one that is found. -/
structure NearestAbove (t : FileTree) (here top : Location) (root filename : Path) : Prop where
  nearest : ∀ config, discover (t.isFile here) root .upward filename = .ok config →
    ∃ l, ∃ name ∈ fileNames, config.location here = l ++ [name.spelling] ∧
      t.file (config.location here) = true ∧ l <+: fileDirectory here root filename ∧
      ∀ nearer, l <+: nearer → nearer <+: fileDirectory here root filename →
        ConfiguredAt t nearer → nearer = l
  succeeds : ∀ l, top <+: l → l <+: fileDirectory here root filename → ConfiguredAt t l →
    ∃ config, discover (t.isFile here) root .upward filename = .ok config

theorem namedParent {p : Path} (hasName : p.fileName ≠ none) :
    ∃ q name, p.parent = some q ∧ p.components = q.components ++ [.named name] := by
  unfold Path.fileName at hasName
  split at hasName
  · rename_i name isLast
    cases parent : p.parent with
    | none =>
      rcases Path.parentless parent with whole | whole
      · rw [whole] at isLast
        cases isLast
      · rw [whole] at isLast
        cases isLast
    | some q =>
      obtain ⟨last, -, whole⟩ := Path.parentComponents parent
      rw [whole, List.getLast?_concat, Option.some.injEq] at isLast
      exact ⟨q, name, rfl, by rw [whole, isLast]⟩
  · exact absurd rfl hasName

theorem startParent {root filename : Path} (hasName : (root.join filename).fileName ≠ none) :
    ∃ name, (root.join filename).components =
      (start root filename).components ++ [.named name] := by
  obtain ⟨q, name, parent, whole⟩ := namedParent hasName
  rw [start, parent]
  exact ⟨name, whole⟩

theorem startLocation {root filename : Path} (hasName : (root.join filename).fileName ≠ none) :
    fileDirectory here root filename = (start root filename).location here := by
  obtain ⟨name, whole⟩ := startParent hasName
  rw [fileDirectory, ← Path.locationJoin, Path.location, whole, List.foldl_append]
  exact List.dropLast_concat

theorem startAbsolute {root filename : Path} (hasName : (root.join filename).fileName ≠ none)
    (absolute : (root.join filename).isAbsolute = true) :
    .root ∈ (start root filename).components := by
  obtain ⟨name, whole⟩ := startParent hasName
  obtain ⟨names, opening⟩ := Path.absoluteComponents absolute
  have begins : Component.root ∈ (root.join filename).components := by
    rw [opening]
    exact List.mem_cons_self
  rw [whole, List.mem_append, List.mem_singleton] at begins
  exact begins.resolve_right nofun

theorem topReached (t : FileTree) (here : Location) {p top : Path} {nearer : List Path}
    (ascent : Ascent p (nearer ++ [top])) :
    t.reach here top = some (top.location here) ∧
    (top.location here = [] ∨ top.location here = here ∧ .root ∉ p.components) := by
  obtain ⟨cs, whole, rootless, -⟩ := Path.ascentPasses ascent
  refine ⟨t.reachedTop here (Path.ascentEnds ascent), ?_⟩
  rcases Path.parentless (Path.ascentEnds ascent) with nothing | root
  · exact .inr ⟨by rw [Path.location, nothing, List.foldl_nil],
      by rwa [whole, nothing, List.nil_append]⟩
  · refine .inl ?_
    rw [Path.location, root]
    rfl

section
variable {p : Path} {directories : List Path} {result : Except ConfigError Path}
  (ascent : Ascent p directories)
  (straight : ∀ q ∈ directories, q.location here <+: p.location here)
  (search : Nearest (t.isFile here) p directories result)
include ascent straight search

theorem foundNearest {config : Path} (found : result = .ok config) :
    ∃ l, ∃ name ∈ fileNames, config.location here = l ++ [name.spelling] ∧
      t.file (config.location here) = true ∧ l <+: p.location here ∧
      ∀ nearer, l <+: nearer → nearer <+: p.location here → ConfiguredAt t nearer →
        nearer = l := by
  obtain ⟨nearer, directory, further, rfl, before, configured, rfl⟩ :=
    (search.found config).mp found
  obtain ⟨name, member, file, spelled⟩ := preferredFile configured
  obtain ⟨l, reached, inside⟩ := (candidateFile member).mp file
  obtain rfl := FileTree.walked reached
  rw [spelled, candidateLocation directory member]
  refine ⟨_, name, member, rfl, inside,
    straight directory (List.mem_append_right _ List.mem_cons_self), ?_⟩
  intro e below above configured
  rcases FileTree.reachedBetween ascent straight reached below above
    (configuredDirectory configured) with same | ⟨q, member, passed⟩
  · exact same
  · exact absurd ((reachedConfigured passed).mpr configured) (before q member)

theorem foundAny {l : Location} (fromTop : .root ∈ p.components ∨ here <+: l)
    (above : l <+: p.location here) (configured : ConfiguredAt t l) :
    ∃ config, result = .ok config := by
  obtain ⟨nearer, top, rfl⟩ : ∃ nearer top, directories = nearer ++ [top] := by
    rcases List.eq_nil_or_concat directories with rfl | ⟨nearer, top, whole⟩
    · cases ascent
    · exact ⟨nearer, top, by rw [whole, List.concat_eq_append]⟩
  obtain ⟨reached, atTop⟩ := topReached t here ascent
  have below : top.location here <+: l := by
    rcases atTop with isRoot | ⟨isHere, relative⟩
    · rw [isRoot]
      exact List.nil_prefix
    · rw [isHere]
      exact fromTop.resolve_left relative
  refine search.succeeds.mpr ?_
  rcases FileTree.reachedBetween ascent straight reached below above
    (configuredDirectory configured) with same | ⟨q, member, passed⟩
  · exact ⟨top, List.mem_append_right _ List.mem_cons_self,
      (reachedConfigured reached).mpr (same ▸ configured)⟩
  · exact ⟨q, List.mem_append_left _ member, (reachedConfigured passed).mpr configured⟩

end

theorem furthestAstray {p astray : Path} (member : astray ∈ p.ancestors)
    (beside : ¬ astray.location here <+: p.location here) :
    ∃ q ∈ p.ancestors, ¬ q.location here <+: p.location here ∧
      ∀ other ∈ p.ancestors, ¬ other.location here <+: p.location here →
        (other.location here).length ≤ (q.location here).length := by
  let strays := p.ancestors.filter fun q => ¬ q.location here <+: p.location here
  let depth (q : Path) : Nat := (q.location here).length
  have isStray {q : Path} : q ∈ strays ↔
      q ∈ p.ancestors ∧ ¬ q.location here <+: p.location here := by
    rw [List.mem_filter, decide_eq_true_eq]
  cases furthest : strays.argmax depth with
  | none =>
    have nothing : strays = [] := List.argmax_eq_none.mp furthest
    have stray := isStray.mpr ⟨member, beside⟩
    rw [nothing] at stray
    cases stray
  | some q =>
    obtain ⟨isMember, isBeside⟩ := isStray.mp (List.argmax_mem furthest)
    exact ⟨q, isMember, isBeside, fun other among otherBeside =>
      @List.le_of_mem_argmax _ _ _ depth strays _ _ (isStray.mpr ⟨among, otherBeside⟩) furthest⟩

def strayConfig (here : Location) (astray : Path) : Location :=
  astray.location here ++ ["svelte.config.js".toList]

def strayTree (here : Location) (p astray : Path) : FileTree :=
  .of [strayConfig here astray] (p.ancestors.map (·.location here))

section
variable {p astray : Path} (furthest : ∀ other ∈ p.ancestors,
  ¬ other.location here <+: p.location here →
    (other.location here).length ≤ (astray.location here).length)
  (beside : ¬ astray.location here <+: p.location here)
include furthest beside

/-- What the spelling passes through below the config would lead further astray. -/
theorem strayApart :
    (strayTree here p astray).directory (strayConfig here astray) = false := by
  refine Bool.eq_false_iff.mpr fun there => ?_
  have size : (strayConfig here astray).length = (astray.location here).length + 1 :=
    List.length_append
  rcases FileTree.ofDirectoryBelow there with isRoot | ⟨below, passed, above⟩ | above
  · exact List.concat_ne_nil _ _ isRoot
  · obtain ⟨other, among, rfl⟩ := List.mem_map.mp passed
    have within := (List.prefix_append _ _).trans above
    have shorter := furthest other among fun straight => beside (within.trans straight)
    have longer := above.length_le
    omega
  · have longer := above.length_le
    rw [strayConfig, List.dropLast_concat, ← strayConfig] at longer
    omega

theorem strayOnly (place : Location) :
    (strayTree here p astray).file place = true ↔ place = strayConfig here astray :=
  FileTree.ofFile (strayApart furthest beside)

theorem strayReached (member : astray ∈ p.ancestors) :
    Configured ((strayTree here p astray).isFile here) astray := by
  have present : ∀ q ∈ p.ancestors, (strayTree here p astray).directory (q.location here) = true :=
    fun q passed => FileTree.ofDirectory _ (List.mem_map_of_mem passed)
  refine (reachedConfigured (FileTree.reachedAll (Path.ancestorsAscend p) present astray
    member)).mpr ?_
  exact ⟨.ofString "svelte.config.js", List.mem_cons_self, (strayOnly furthest beside _).mpr rfl⟩

end

/-- A config where the spelling goes furthest astray is found, if there is no other. -/
theorem foundAstray {root filename : Path} (hasName : (root.join filename).fileName ≠ none)
    {astray : Path} (member : astray ∈ (start root filename).ancestors)
    (beside : ¬ astray.location here <+: (start root filename).location here)
    (furthest : ∀ other ∈ (start root filename).ancestors,
      ¬ other.location here <+: (start root filename).location here →
        (other.location here).length ≤ (astray.location here).length) (top : Location) :
    ¬ NearestAbove (strayTree here (start root filename) astray) here top root filename := by
  have only := strayOnly furthest beside
  have search := searchedNearest ((strayTree here (start root filename) astray).isFile here)
    (start root filename) (start root filename).ancestors
  rw [← discoverSearched] at search
  obtain ⟨config, result⟩ :=
    search.succeeds.mpr ⟨astray, member, strayReached furthest beside member⟩
  intro nearest
  obtain ⟨l, name, -, located, file, inside, -⟩ := nearest.nearest config result
  rw [(only _).mp file, strayConfig] at located
  rw [startLocation hasName, ← (List.append_inj' located rfl).1] at inside
  exact beside inside

/-- In every tree the nearest config is found exactly when the spelling is straight: up to the
root of the file system, or up to the working directory if the root of the project and the file
are spelled without the way there. -/
theorem nearestLocated (here : Location) (root filename : Path)
    (hasName : (root.join filename).fileName ≠ none) :
    (∀ t, NearestAbove t here (if (root.join filename).isAbsolute then [] else here)
      root filename) ↔ (start root filename).Straight here := by
  refine ⟨fun all q member => ?_, fun straight t => ⟨fun config result => ?_, ?_⟩⟩
  · refine Decidable.byContradiction fun beside => ?_
    obtain ⟨astray, member, beside, furthest⟩ := furthestAstray member beside
    exact foundAstray hasName member beside furthest _ (all _)
  · have ascent := Path.ancestorsAscend (start root filename)
    rw [startLocation hasName]
    exact foundNearest ascent straight (searchedNearest _ _ _) result
  · intro l fromTop above configured
    have ascent := Path.ancestorsAscend (start root filename)
    rw [startLocation hasName] at above
    refine foundAny ascent straight (searchedNearest _ _ _) ?_ above configured
    cases absolute : (root.join filename).isAbsolute with
    | true => exact .inl (startAbsolute hasName absolute)
    | false =>
      rw [absolute, if_neg Bool.false_ne_true] at fromTop
      exact .inr fromTop

theorem nearestOfComponent : NearestAbove
    (.of [(Path.ofString "/app/svelte.config.cjs").location []]
      [(Path.ofString "/app/src").location []])
    [] [] (.ofString "/app") (.ofString "./src/App.svelte") := by
  have name : ((Path.ofString "/app").join (.ofString "./src/App.svelte")).fileName =
      some "App.svelte".toList := by rfl
  have down : .above ∉ (start (.ofString "/app") (.ofString "./src/App.svelte")).components := by
    have whole : (start (.ofString "/app") (.ofString "./src/App.svelte")).components =
        [.root, .named "app".toList, .named "src".toList] := by rfl
    rw [whole]
    decide
  have nearest := (nearestLocated [] (.ofString "/app") (.ofString "./src/App.svelte")
    (by rw [name]; exact nofun)).mpr (Path.straightDown down [])
  rw [ite_self] at nearest
  exact nearest _

/-- What a spelling leads back from is searched though it is not above the file, and from a
relative path nothing above the working directory is. -/
theorem elsewhereSearched :
    ¬ NearestAbove
      (.of [(Path.ofString "/app/a/svelte.config.js").location []]
        [(Path.ofString "/app/b").location []])
      [] [] (.ofString "/app") (.ofString "a/../b/App.svelte") ∧
    ¬ NearestAbove
      (.of [(Path.ofString "/app/svelte.config.js").location []]
        [(Path.ofString "/app/src").location []])
      ["app".toList, "src".toList] [] (.ofString "") (.ofString "App.svelte") := by
  constructor
  · intro above
    obtain ⟨l, name, -, located, -, inside, -⟩ :=
      above.nearest (.ofString "/app/a/svelte.config.js") (by rfl)
    have location : (Path.ofString "/app/a/svelte.config.js").location [] =
        ["app".toList, "a".toList] ++ ["svelte.config.js".toList] := by rfl
    have directory : fileDirectory [] (.ofString "/app") (.ofString "a/../b/App.svelte") =
        ["app".toList, "b".toList] := by rfl
    rw [location] at located
    rw [directory, ← (List.append_inj' located rfl).1] at inside
    revert inside
    decide
  · intro above
    have configured : ConfiguredAt (.of [(Path.ofString "/app/svelte.config.js").location []]
        [(Path.ofString "/app/src").location []]) ["app".toList] :=
      ⟨.ofString "svelte.config.js", List.mem_cons_self, by rfl⟩
    have directory : fileDirectory ["app".toList, "src".toList] (.ofString "")
        (.ofString "App.svelte") = ["app".toList, "src".toList] := by rfl
    obtain ⟨config, result⟩ := above.succeeds ["app".toList] List.nil_prefix
      (by rw [directory]; exact List.prefix_append _ [_]) configured
    have missing : discover ((FileTree.of [(Path.ofString "/app/svelte.config.js").location []]
        [(Path.ofString "/app/src").location []]).isFile ["app".toList, "src".toList])
        (.ofString "") .upward (.ofString "App.svelte") =
        .error (.notFoundUpward (.ofString "")) := by rfl
    rw [missing] at result
    cases result

end SvelteTransform.Config
