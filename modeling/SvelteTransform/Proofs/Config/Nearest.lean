import SvelteTransform.Config.Discovery
import SvelteTransform.Proofs.Path.Ascent

/-! The search upward: the config that is found is the one of the nearest directory that has any,
whichever of the two names it goes by there. -/
namespace SvelteTransform.Config

def Configured (isFile : Path → Bool) (directory : Path) : Prop :=
  ∃ name ∈ fileNames, isFile (directory.join name) = true

def preferred (isFile : Path → Bool) (directory : Path) : Path :=
  if isFile (directory.join (.ofString "svelte.config.js"))
  then directory.join (.ofString "svelte.config.js")
  else directory.join (.ofString "svelte.config.cjs")

theorem inDirectoryCases (isFile : Path → Bool) (directory : Path) :
    (Configured isFile directory ∧
      inDirectory isFile directory = some (preferred isFile directory)) ∨
    (¬ Configured isFile directory ∧ inDirectory isFile directory = none) := by
  unfold Configured inDirectory preferred fileNames
  cases js : isFile (directory.join (.ofString "svelte.config.js")) with
  | true => exact .inl ⟨⟨_, List.mem_cons_self, js⟩, List.find?_cons_of_pos js⟩
  | false =>
    cases cjs : isFile (directory.join (.ofString "svelte.config.cjs")) with
    | true =>
      exact .inl ⟨⟨_, List.mem_cons_of_mem _ List.mem_cons_self, cjs⟩, by simp [js, cjs]⟩
    | false => exact .inr (by simp [js, cjs])

theorem inDirectorySome {isFile : Path → Bool} {directory config : Path} :
    inDirectory isFile directory = some config ↔
      Configured isFile directory ∧ config = preferred isFile directory := by
  rcases inDirectoryCases isFile directory with ⟨configured, result⟩ | ⟨bare, result⟩
  · rw [result]
    exact ⟨fun same => ⟨configured, (Option.some.inj same).symm⟩, fun same => by rw [same.2]⟩
  · rw [result]
    exact ⟨nofun, fun same => absurd same.1 bare⟩

theorem inDirectoryNone {isFile : Path → Bool} {directory : Path} :
    inDirectory isFile directory = none ↔ ¬ Configured isFile directory := by
  rcases inDirectoryCases isFile directory with ⟨configured, result⟩ | ⟨bare, result⟩
  · rw [result]
    exact ⟨nofun, fun bare => absurd configured bare⟩
  · rw [result]
    exact ⟨fun _ => bare, fun _ => rfl⟩

theorem preferredFile {isFile : Path → Bool} {directory : Path}
    (configured : Configured isFile directory) : ∃ name ∈ fileNames,
      isFile (directory.join name) = true ∧ preferred isFile directory = directory.join name := by
  have found : inDirectory isFile directory = some (preferred isFile directory) :=
    inDirectorySome.mpr ⟨configured, rfl⟩
  obtain ⟨name, member, spelled⟩ := List.mem_map.mp (List.mem_of_find?_eq_some found)
  have file := List.find?_some found
  rw [← spelled] at file
  exact ⟨name, member, file, spelled.symm⟩

theorem inDirectoryAgrees {isFile other : Path → Bool} {directory : Path}
    (agrees : ∀ name ∈ fileNames, other (directory.join name) = isFile (directory.join name)) :
    inDirectory other directory = inDirectory isFile directory := by
  have js := agrees (.ofString "svelte.config.js") List.mem_cons_self
  have cjs := agrees (.ofString "svelte.config.cjs") (List.mem_cons_of_mem _ List.mem_cons_self)
  simp only [inDirectory, fileNames, List.map_cons, List.find?_cons, js, cjs]
  rfl

theorem nearestSome {isFile : Path → Bool} {directories : List Path} {config : Path} :
    directories.findSome? (inDirectory isFile) = some config ↔ ∃ nearer directory further,
      directories = nearer ++ directory :: further ∧ (∀ d ∈ nearer, ¬ Configured isFile d) ∧
      Configured isFile directory ∧ config = preferred isFile directory := by
  rw [List.findSome?_eq_some_iff]
  constructor
  · rintro ⟨nearer, directory, further, whole, here, before⟩
    exact ⟨nearer, directory, further, whole, fun d member => inDirectoryNone.mp (before d member),
      inDirectorySome.mp here⟩
  · rintro ⟨nearer, directory, further, whole, before, here⟩
    exact ⟨nearer, directory, further, whole, inDirectorySome.mpr here,
      fun d member => inDirectoryNone.mpr (before d member)⟩

theorem nearestNone {isFile : Path → Bool} {directories : List Path} :
    directories.findSome? (inDirectory isFile) = none ↔
      ∀ d ∈ directories, ¬ Configured isFile d := by
  rw [List.findSome?_eq_none_iff]
  exact ⟨fun nothing d member => inDirectoryNone.mp (nothing d member),
    fun bare d member => inDirectoryNone.mpr (bare d member)⟩

def searched (isFile : Path → Bool) (start : Path) (directories : List Path) :
    Except ConfigError Path :=
  match directories.findSome? (inDirectory isFile) with
  | some config => .ok config
  | none => .error (.notFoundUpward start)

theorem discoverSearched (isFile : Path → Bool) (root filename : Path) :
    discover isFile root .upward filename =
      searched isFile (start root filename) (start root filename).ancestors := rfl

structure Nearest (isFile : Path → Bool) (start : Path) (directories : List Path)
    (result : Except ConfigError Path) : Prop where
  found : ∀ config, result = .ok config ↔ ∃ nearer directory further,
    directories = nearer ++ directory :: further ∧ (∀ d ∈ nearer, ¬ Configured isFile d) ∧
    Configured isFile directory ∧ config = preferred isFile directory
  succeeds : (∃ config, result = .ok config) ↔ ∃ d ∈ directories, Configured isFile d
  missing : result = .error (.notFoundUpward start) ↔ ∀ d ∈ directories, ¬ Configured isFile d

theorem searchedNearest (isFile : Path → Bool) (start : Path) (directories : List Path) :
    Nearest isFile start directories (searched isFile start directories) := by
  unfold searched
  cases search : directories.findSome? (inDirectory isFile) with
  | some config =>
    obtain ⟨nearer, directory, further, whole, -, configured, -⟩ := nearestSome.mp search
    have member : directory ∈ directories := by
      rw [whole]
      exact List.mem_append_right _ List.mem_cons_self
    refine ⟨fun other => ?_, ⟨fun _ => ⟨directory, member, configured⟩, fun _ => ⟨config, rfl⟩⟩,
      ⟨nofun, fun bare => absurd configured (bare directory member)⟩⟩
    rw [← nearestSome, search, Except.ok.injEq, Option.some.injEq]
  | none =>
    have bare := nearestNone.mp search
    refine ⟨fun config => ?_, ⟨nofun, ?_⟩, ⟨fun _ => bare, fun _ => rfl⟩⟩
    · rw [← nearestSome, search]
      exact ⟨nofun, nofun⟩
    · rintro ⟨directory, member, configured⟩
      exact absurd configured (bare directory member)

theorem searchedAgrees {isFile other : Path → Bool} {start : Path} {directories : List Path}
    (agrees : ∀ d ∈ directories, ∀ name ∈ fileNames, other (d.join name) = isFile (d.join name)) :
    searched other start directories = searched isFile start directories := by
  have same : directories.findSome? (inDirectory other) =
      directories.findSome? (inDirectory isFile) := by
    induction directories with
    | nil => rfl
    | cons d further ih =>
      rw [List.findSome?_cons, List.findSome?_cons,
        inDirectoryAgrees (agrees d List.mem_cons_self),
        ih fun e member => agrees e (List.mem_cons_of_mem d member)]
  rw [searched, same]
  rfl

theorem joinedStart (root filename : Path) :
    ((if filename.isRelative then root.join filename else filename).parent).getD root =
      start root filename := by
  unfold start Path.isRelative
  cases absolute : filename.isAbsolute with
  | false => rfl
  | true => rw [Path.join, if_pos absolute, Bool.not_true, if_neg Bool.false_ne_true]

/-- From the directory of the file, or the root where it has none, the search goes from parent to
parent. That comes to an end, and files beside those directories are of no account. -/
theorem nearestFound (isFile : Path → Bool) (root filename : Path) :
    let file := if filename.isRelative then root.join filename else filename
    let start := file.parent.getD root
    let result := discover isFile root .upward filename
    ∃ directories, (∀ paths, Path.Ascent start paths ↔ paths = directories) ∧
      directories.Pairwise (fun lower upper =>
        upper.components.length < lower.components.length) ∧
      Nearest isFile start directories result ∧
      ∀ other, (∀ d ∈ directories, ∀ name ∈ fileNames,
        other (d.join name) = isFile (d.join name)) →
        discover other root .upward filename = result := by
  intro file first result
  have begins : first = start root filename := joinedStart root filename
  rw [begins]
  have ascent := Path.ancestorsAscend (start root filename)
  refine ⟨_, fun paths => ⟨fun another => Path.ascentUnique another ascent, ?_⟩,
    Path.ascentShrinks ascent, searchedNearest _ _ _, fun other agrees => searchedAgrees agrees⟩
  rintro rfl
  exact ascent

example : discover (fun p => p = .ofString "/app/src/svelte.config.cjs" ||
    p = .ofString "/app/svelte.config.js") (.ofString "/app") .upward
    (.ofString "src/lib/App.svelte") = .ok (.ofString "/app/src/svelte.config.cjs") := by
  cbv

end SvelteTransform.Config
