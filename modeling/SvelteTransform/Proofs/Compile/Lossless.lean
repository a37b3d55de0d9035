import SvelteTransform.Compile.Basic
import SvelteTransform.Proofs.Json.Characters
import SvelteTransform.Proofs.Json.Grammar.Documents

/-! What the host is given of an output of the compiler. The map is text of one line that denotes
it, however deep it nests, and the code is all there with at most the marker behind it. So an output
can be told from what the host is given. -/
namespace SvelteTransform.Compile
open Json

structure Keeps (output : OrderedOutput) (format : ModuleFormat) (r : Result) : Prop where
  oneLine : NoControl r.map.toList
  document : ∀ v, IsDocumentOf v r.map.toList ↔ v = output.map
  readBack : readDeep r.map.toList = .ok output.map
  marked : r.code = output.code ++ esInterop ↔ format = .cjs
  unmarked : r.code = output.code ↔ format = .esm

theorem markerShows (code : String) : code ++ esInterop ≠ code := by
  intro same
  have length := congrArg String.length same
  rw [String.length_append] at length
  have nonempty : 0 < esInterop.length := by decide
  omega

namespace Result

theorem mapText (output : Output) (format : ModuleFormat) :
    (ofOutput output format).map.toList = output.map.text := String.toList_ofList

theorem codeTold {output other : Output} {format : ModuleFormat}
    (same : ofOutput other format = ofOutput output format) : other.code = output.code := by
  have code : (ofOutput other format).code = (ofOutput output format).code := by rw [same]
  cases format with
  | cjs => exact String.append_left_inj esInterop |>.mp code
  | esm => exact code

section
variable {output : OrderedOutput} (whole : output.map.isWhole = true)
include whole

theorem outputKept (format : ModuleFormat) :
    Keeps output format (ofOutput output.toOutput format) := by
  have document : IsDocumentOf output.map (ofOutput output.toOutput format).map.toList := by
    rw [mapText]
    exact textDocument whole output.ordered
  refine ⟨?_, fun v => ⟨fun other => documentUnique other document, ?_⟩,
    readDeepDocument.mpr document, ?_, ?_⟩
  · rw [mapText]
    exact textNoControl output.map
  · rintro rfl
    exact document
  · cases format with
    | cjs => exact ⟨fun _ => rfl, fun _ => rfl⟩
    | esm => exact ⟨fun same => absurd same.symm (markerShows output.code), nofun⟩
  · cases format with
    | cjs => exact ⟨fun same => absurd same (markerShows output.code), nofun⟩
    | esm => exact ⟨fun _ => rfl, fun _ => rfl⟩

theorem outputTold {other : OrderedOutput} (wholeOther : other.map.isWhole = true)
    {format : ModuleFormat}
    (same : ofOutput other.toOutput format = ofOutput output.toOutput format) :
    other = output := by
  have kept := outputKept wholeOther format
  rw [same] at kept
  -- The other map is denoted by the one text, and that denotes the map alone.
  have map := ((outputKept whole format).document other.map).mp
    ((kept.document other.map).mpr rfl)
  have code := codeTold same
  obtain ⟨⟨_, _⟩, _⟩ := other
  obtain ⟨⟨_, _⟩, _⟩ := output
  rw [OrderedOutput.mk.injEq, Output.mk.injEq]
  exact ⟨code, map⟩

/-- However deep the map nests, the host is given all of an output in either format. Two outputs of
which it is given the same are one, and the formats differ in the marker alone. -/
theorem nothingLost : (∀ format, Keeps output format (ofOutput output.toOutput format)) ∧
    (∀ format (other : OrderedOutput), other.map.isWhole = true →
      ofOutput other.toOutput format = ofOutput output.toOutput format → other = output) ∧
    ofOutput output.toOutput .cjs =
      ⟨(ofOutput output.toOutput .esm).code ++ esInterop,
        (ofOutput output.toOutput .esm).map⟩ :=
  ⟨outputKept whole, fun _ _ wholeOther => outputTold whole wholeOther, rfl⟩

end

def boxed : Nat → Json
  | 0 => .string "\n"
  | n + 1 => .array [boxed n]

theorem boxedOrdered : (n : Nat) → (boxed n).Ordered
  | 0 => trivial
  | n + 1 => ⟨boxedOrdered n, trivial⟩

theorem boxedDeep (n : Nat) : (boxed n).nesting = n ∧ (boxed n).isWhole = true := by
  induction n with
  | zero => exact ⟨rfl, rfl⟩
  | succ n ih =>
    obtain ⟨nesting, whole⟩ := ih
    refine ⟨?_, ?_⟩
    · rw [boxed, Json.nesting, nestingItems, nesting, nestingItems, Nat.max_zero]
    · rw [boxed, isWhole, areWhole, whole, areWhole, Bool.and_self]

def deepOutput : OrderedOutput := ⟨⟨"let a;", boxed 200⟩, boxedOrdered 200⟩

theorem deepMapKept : deepOutput.map.nesting = 200 ∧ deepOutput.map.isWhole = true ∧
    Keeps deepOutput .cjs (ofOutput deepOutput.toOutput .cjs) := by
  obtain ⟨nesting, whole⟩ := boxedDeep 200
  exact ⟨nesting, whole, (@nothingLost deepOutput whole).1 .cjs⟩

end Result
end SvelteTransform.Compile
