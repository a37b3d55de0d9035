import SvelteTransform.Compile.Basic
import SvelteTransform.Proofs.Json.Lookup

/-! Where the format of the generated code shows in the options of the compiler: under its own key,
unless the user's options have that key. -/
namespace SvelteTransform.Compile.Options

section
variable {file : Path} {legacy : Bool} {format : ModuleFormat} {sourcemap : Option Json}
  {overrides : Fields Json}

theorem assembledLookup (key : String) :
    (assemble file legacy format sourcemap overrides).get? key =
      (overrides.reverse.lookup key).or ((base file legacy format sourcemap).get? key) :=
  Fields.overlayLookup (Fields.ofListOrdered _) overrides key

end

theorem formatOnly (file : Path) (legacy : Bool) (sourcemap : Option Json) (a b : ModuleFormat)
    {key : String} (other : key ≠ "format") :
    (base file legacy a sourcemap).get? key = (base file legacy b sourcemap).get? key := by
  have notThere (format : ModuleFormat) :
      (if legacy then [("format", Json.string format.name)] else []).reverse.lookup key = none := by
    split
    · rw [List.reverse_singleton, List.lookup_cons, beq_false_of_ne other]
      rfl
    · rfl
  simp only [base, Fields.ofListLookup, List.reverse_append, List.lookup_append, notThere]

theorem formatGiven (file : Path) (sourcemap : Option Json) (format : ModuleFormat) :
    (base file true format sourcemap).get? "format" = some (.string format.name) := by
  rw [base, Fields.ofListLookup, List.reverse_append, List.lookup_append]
  rfl

theorem overrideFound {overrides : Fields Json} {key : String} :
    key ∈ overrides.keys ↔ ∃ v, overrides.reverse.lookup key = some v := by
  simp only [← Option.isSome_iff_exists, List.lookup_isSome_iff, List.mem_reverse, beq_iff_eq,
    Fields.keys, List.mem_map]
  exact exists_congr fun entry => and_congr_right fun _ => eq_comm

section
variable {file : Path} {sourcemap : Option Json} {overrides : Fields Json} {a b : ModuleFormat}

theorem assembledAlike {legacy : Bool} {key : String} (other : key ≠ "format") :
    (assemble file legacy a sourcemap overrides).get? key =
      (assemble file legacy b sourcemap overrides).get? key := by
  rw [assembledLookup, assembledLookup, formatOnly file legacy sourcemap a b other]

theorem assembledFree {legacy : Bool} {key : String} (free : key ∉ overrides.keys) :
    (assemble file legacy a sourcemap overrides).get? key =
      (base file legacy a sourcemap).get? key := by
  have nothing : overrides.reverse.lookup key = none :=
    Option.eq_none_iff_forall_ne_some.mpr fun v found => free (overrideFound.mpr ⟨v, found⟩)
  rw [assembledLookup, nothing, Option.none_or]

theorem assembledFormat (free : "format" ∉ overrides.keys) :
    (assemble file true a sourcemap overrides).get? "format" = some (.string a.name) := by
  rw [assembledFree free, formatGiven]

theorem assembledSame {legacy : Bool} (overridden : "format" ∈ overrides.keys) :
    assemble file legacy a sourcemap overrides = assemble file legacy b sourcemap overrides := by
  obtain ⟨v, found⟩ := overrideFound.mp overridden
  refine congrArg Options.mk (Fields.orderedSame fun key => ?_)
  by_cases isFormat : key = "format"
  · subst isFormat
    have same (format : ModuleFormat) :
        (assemble file legacy format sourcemap overrides).get? "format" = some v := by
      rw [assembledLookup, found, Option.some_or]
    exact (same a).trans (same b).symm
  · exact assembledAlike isFormat

theorem assembledModule {legacy : Bool} :
    (assemble file legacy a sourcemap overrides).forModule =
      (assemble file legacy b sourcemap overrides).forModule := by
  have sameName : (assemble file legacy a sourcemap overrides).filename =
      (assemble file legacy b sourcemap overrides).filename := by
    rw [filename, assembledAlike (by decide), filename]
  have sameHolds {key : String} (other : key ≠ "format") :
      (assemble file legacy a sourcemap overrides).holds key =
        (assemble file legacy b sourcemap overrides).holds key := by
    rw [holds, assembledAlike other, holds]
  rw [forModule, forModule, sameName, dev, dev, ssr, ssr, sameHolds (by decide),
    sameHolds (by decide)]

end

end SvelteTransform.Compile.Options
