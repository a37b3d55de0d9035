import SvelteTransform.Proofs.Compile.Assembled
import SvelteTransform.Proofs.Path.Components
import SvelteTransform.Proofs.Transform.Effects

/-! Which entry of the compiler a file goes to and which name it is given there. Both are told by
the last component of its path, so neither a directory before it nor a slash behind it has any
effect. -/
namespace SvelteTransform

namespace Path

inductive Padding : List Char → Prop where
  | nothing : Padding []
  | slash {more} (rest : Padding more) : Padding ('/' :: more)
  | dot {more} (rest : Padding more) : Padding ('/' :: '.' :: more)

structure IsName (name : List Char) : Prop where
  nonempty : name ≠ []
  noSlash : '/' ∉ name
  notHere : name ≠ ['.']
  notAbove : name ≠ ['.', '.']

theorem fileNameLast {p : Path} {name : Segment} :
    p.fileName = some name ↔ p.components.getLast? = some (.named name) := by
  rw [fileName]
  split
  · rename_i other isLast
    rw [isLast, Option.some.injEq, Option.some.injEq, Component.named.injEq]
  · rename_i other
    exact ⟨nofun, fun isLast => absurd isLast (other name)⟩

theorem paddedComponents {text more : List Char} (nonempty : text ≠ []) (padding : Padding more) :
    Path.components ⟨text ++ more⟩ = Path.components ⟨text⟩ := by
  -- What is read of the padding moves to the text before it, which is never empty then.
  induction padding generalizing text with
  | nothing => rw [List.append_nil]
  | @slash more rest ih =>
    have slashed : text ++ ['/'] ≠ [] := List.concat_ne_nil _ _
    rw [List.append_cons, ih slashed, componentsSlash nonempty]
    exact List.append_nil _
  | @dot more rest ih =>
    have dotted : text ++ ['/', '.'] ≠ [] := by simp
    have parts : text ++ '/' :: '.' :: more = text ++ ['/', '.'] ++ more := by simp
    rw [parts, ih dotted, componentsSlash nonempty]
    exact List.append_nil _

section
variable {p : Path} {name : Segment} (named : p.fileName = some name)
include named

theorem namedSpelling : p.spelling ≠ [] := by
  intro nothing
  obtain ⟨text⟩ := p
  cases nothing
  cases named

theorem paddedName {more : List Char} (padding : Padding more) :
    fileName ⟨p.spelling ++ more⟩ = some name := by
  rw [fileNameLast, paddedComponents (namedSpelling named) padding]
  exact fileNameLast.mp named

theorem joinedName (relative : p.isAbsolute = false) (directory : Path) :
    (directory.join p).fileName = some name := by
  by_cases nothing : directory.spelling = []
  · rw [joinNothing nothing, named]
  · have isLast := fileNameLast.mp named
    have segments : (Path.named (cut p.spelling)).getLast? = some (.named name) := by
      -- A `.` at the front is a component of the path alone, but it is not the last one.
      rcases relativeNamed relative with plain | dotted
      · rw [← plain, isLast]
      · rw [dotted, List.getLast?_cons] at isLast
        cases last : (Path.named (cut p.spelling)).getLast? with
        | none =>
          rw [last] at isLast
          cases isLast
        | some c =>
          rw [last] at isLast
          exact isLast
    rw [fileNameLast, joinComponents nothing relative, List.getLast?_append, segments]
    rfl

end

theorem formClean {p : Path} {start : Start} {segments : List Segment}
    (form : Form p start segments) : ∀ segment ∈ segments, '/' ∉ segment := by
  cases form with
  | root rest => exact fun segment => cutClean
  | here => exact nofun
  | inside rest =>
    rw [List.forall_mem_cons]
    exact ⟨List.not_mem_nil, fun segment => cutClean⟩
  | empty => exact List.forall_mem_singleton.mpr List.not_mem_nil
  | bare segments solid =>
    rw [← segments]
    exact fun segment => cutClean

theorem ofSegmentNamed {segment name : Segment} (same : Component.ofSegment segment = .named name) :
    segment = name ∧ name ≠ ['.', '.'] := by
  rw [Component.ofSegment] at same
  split at same
  · cases same
  · rename_i notAbove
    cases same
    exact ⟨rfl, notAbove⟩

theorem fileNameShape {p : Path} {name : Segment} (named : p.fileName = some name) :
    IsName name := by
  obtain ⟨start, segments, form⟩ := formExists p
  have member := List.mem_of_getLast? (fileNameLast.mp named)
  rw [form.components, List.mem_append] at member
  have amongNamed := member.resolve_left (by cases start <;> simp [Start.opening])
  obtain ⟨segment, solid, same⟩ := List.mem_map.mp amongNamed
  obtain ⟨isSegment, isSolid⟩ := List.mem_filter.mp solid
  obtain ⟨rfl, notAbove⟩ := ofSegmentNamed same
  have notVacuous : segment ≠ [] ∧ segment ≠ ['.'] := by simpa [isVacuous] using isSolid
  exact ⟨notVacuous.1, formClean form segment isSegment, notVacuous.2, notAbove⟩

end Path

namespace Compile

structure SameCall (p q : Path) : Prop where
  target : Target.ofPath p = Target.ofPath q
  options : ∀ legacy format sourcemap overrides,
    Options.assemble p legacy format sourcemap overrides =
      Options.assemble q legacy format sourcemap overrides

structure NameLaw (p : Path) : Prop where
  padded : ∀ more, Path.Padding more → SameCall ⟨p.spelling ++ more⟩ p
  joined : p.isAbsolute = false → ∀ directory : Path, SameCall (directory.join p) p
  named : ∃ name : String, p.fileName = some name.toList ∧ Path.IsName name.toList ∧
    (∀ legacy format sourcemap overrides, "filename" ∉ Fields.keys overrides →
      (Options.assemble p legacy format sourcemap overrides).get? "filename" =
        some (.string name)) ∧
    (Target.ofPath p = .module ↔
      ".svelte.js".toList <:+ name.toList ∨ ".svelte.ts".toList <:+ name.toList)

theorem lastNameGiven {p : Path} {name : Path.Segment} (named : p.fileName = some name) :
    p.lastName = name := by
  rw [Path.lastName, named, Option.getD_some]

theorem sameCall {p q : Path} (same : p.lastName = q.lastName) : SameCall p q where
  target := by rw [Target.ofPath, Target.ofPath, same]
  options legacy format sourcemap overrides := by
    have sameBase : Options.base p legacy format sourcemap =
        Options.base q legacy format sourcemap := by
      rw [Options.base, Options.base, same]
    simp only [Options.assemble, sameBase]

theorem sameName {p q : Path} {name : Path.Segment} (first : p.fileName = some name)
    (second : q.fileName = some name) : SameCall p q :=
  sameCall ((lastNameGiven first).trans (lastNameGiven second).symm)

theorem Options.defaultFilename {file : Path} {name : Path.Segment}
    (named : file.fileName = some name) (legacy : Bool) (format : ModuleFormat)
    (sourcemap : Option Json) {overrides : Fields Json}
    (free : "filename" ∉ Fields.keys overrides) :
    (assemble file legacy format sourcemap overrides).get? "filename" =
      some (.string (String.ofList name)) := by
  rw [assembledFree free]
  exact baseComputed.mpr (.lastComponent name named)

/-- A file that has a name is compiled by that name alone, and it is a name that a directory could
hold. -/
theorem byNameAlone {p : Path} (hasName : p.fileName ≠ none) : NameLaw p := by
  obtain ⟨name, named⟩ := Option.ne_none_iff_exists'.mp hasName
  have spelled : (String.ofList name).toList = name := String.toList_ofList
  refine ⟨fun more padding => sameName (Path.paddedName named padding) named,
    fun relative directory => sameName (Path.joinedName named relative directory) named,
    String.ofList name, ?_, ?_, ?_, ?_⟩
  · rw [spelled, named]
  · rw [spelled]
    exact Path.fileNameShape named
  · exact fun legacy format sourcemap overrides =>
      Options.defaultFilename named legacy format sourcemap
  · rw [Transformer.endsModule, NamesModule, lastNameGiven named, spelled]

theorem directoryIgnored : (Path.ofString "lib.svelte.js/../App.svelte").fileName ≠ none ∧
    Path.Padding "/.//".toList ∧ SameCall (.ofString "lib.svelte.js/../App.svelte/.//")
      (.ofString "lib.svelte.js/../App.svelte") := by
  have hasName : (Path.ofString "lib.svelte.js/../App.svelte").fileName ≠ none := by decide
  have padding : Path.Padding "/.//".toList := .dot (.slash (.slash .nothing))
  exact ⟨hasName, padding, (byNameAlone hasName).padded _ padding⟩

end Compile
end SvelteTransform
