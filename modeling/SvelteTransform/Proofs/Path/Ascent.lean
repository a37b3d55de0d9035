import SvelteTransform.Proofs.Path.Components

/-! The way up from a path, one parent after the other. It ends, since a parent has one component
less. -/
namespace SvelteTransform.Path

inductive Ascent : Path → List Path → Prop where
  | top {p : Path} (parentless : p.parent = none) : Ascent p [p]
  | up {p q : Path} {paths : List Path} (parent : p.parent = some q) (further : Ascent q paths) :
      Ascent p (p :: paths)

theorem ascentHead {p : Path} {paths : List Path} (ascent : Ascent p paths) : p ∈ paths := by
  cases ascent with
  | top | up => exact List.mem_cons_self

theorem ascentUnique {p : Path} {paths others : List Path} (ascent : Ascent p paths)
    (another : Ascent p others) : paths = others := by
  induction ascent generalizing others with
  | top parentless =>
    cases another with
    | top => rfl
    | up parent =>
      rw [parentless] at parent
      cases parent
  | up parent further ih =>
    cases another with
    | top parentless =>
      rw [parent] at parentless
      cases parentless
    | up same rest =>
      rw [parent] at same
      cases same
      rw [ih rest]

theorem ascentWithin {n : Nat} {p : Path} (enough : p.components.length ≤ n) :
    Ascent p (ancestorsWithin n p) := by
  induction n generalizing p with
  | zero => exact .top (emptyParentless (List.eq_nil_of_length_eq_zero (Nat.le_zero.mp enough)))
  | succ n ih =>
    rw [ancestorsWithin]
    cases parent : p.parent with
    | none => exact .top parent
    | some q =>
      obtain ⟨last, -, whole⟩ := parentComponents parent
      refine .up parent (ih ?_)
      rw [whole, List.length_append, List.length_singleton] at enough
      exact Nat.le_of_succ_le_succ enough

theorem ancestorsAscend (p : Path) : Ascent p p.ancestors := ascentWithin (componentsLength p)

theorem ascentEnds {p last : Path} {nearer : List Path} (ascent : Ascent p (nearer ++ [last])) :
    last.parent = none := by
  induction nearer generalizing p with
  | nil =>
    cases ascent with
    | top parentless => exact parentless
    | up parent further => cases further
  | cons x nearer ih =>
    generalize above : nearer ++ [last] = paths at ascent ih
    rw [List.cons_append, above] at ascent
    cases ascent with
    | top => exact absurd above (List.concat_ne_nil _ _)
    | up parent further => exact ih further

theorem ascentPrefix {p : Path} {paths : List Path} (ascent : Ascent p paths) :
    ∀ q ∈ paths, q.components <+: p.components := by
  induction ascent with
  | top parentless =>
    intro q member
    obtain rfl := List.mem_singleton.mp member
    exact List.prefix_refl _
  | up parent further ih =>
    intro q member
    rcases List.mem_cons.mp member with rfl | above
    · exact List.prefix_refl _
    · obtain ⟨last, -, whole⟩ := parentComponents parent
      rw [whole]
      exact (ih q above).trans (List.prefix_append _ _)

theorem ascentShrinks {p : Path} {paths : List Path} (ascent : Ascent p paths) :
    paths.Pairwise fun lower upper => upper.components.length < lower.components.length := by
  induction ascent with
  | top => exact List.pairwise_singleton _ _
  | up parent further ih =>
    refine List.pairwise_cons.mpr ⟨fun upper member => ?_, ih⟩
    obtain ⟨last, -, whole⟩ := parentComponents parent
    rw [whole, List.length_append, List.length_singleton]
    exact Nat.lt_succ_of_le (ascentPrefix further upper member).length_le

theorem ascentPasses {p d : Path} {nearer further : List Path}
    (ascent : Ascent p (nearer ++ d :: further)) :
    ∃ cs, p.components = d.components ++ cs ∧ .root ∉ cs ∧
      ∀ passed rest, cs = passed ++ rest → passed ≠ [] →
        ∃ q ∈ nearer, q.components = d.components ++ passed := by
  -- Each path on the way up adds the last component of the one before it.
  induction nearer generalizing p with
  | nil =>
    have same : p = d := by cases ascent <;> rfl
    refine ⟨[], by rw [same, List.append_nil], nofun, fun passed rest whole nonempty => ?_⟩
    exact absurd (List.append_eq_nil_iff.mp whole.symm).1 nonempty
  | cons x nearer ih =>
    rw [List.cons_append] at ascent
    generalize paths : nearer ++ d :: further = rest at ascent
    cases ascent with
    | top => cases nearer <;> cases paths
    | @up _ q _ parent above =>
      subst paths
      obtain ⟨cs, below, rootless, passes⟩ := ih above
      obtain ⟨last, notRoot, whole⟩ := parentComponents parent
      refine ⟨cs ++ [last], by rw [whole, below, List.append_assoc], ?_, ?_⟩
      · rw [List.mem_append, not_or, List.mem_singleton]
        exact ⟨rootless, notRoot.symm⟩
      · intro passed rest parts nonempty
        rcases List.eq_nil_or_concat rest with rfl | ⟨rest, other, rfl⟩
        · rw [List.append_nil] at parts
          exact ⟨x, List.mem_cons_self, by rw [whole, below, List.append_assoc, parts]⟩
        · rw [List.concat_eq_append, ← List.append_assoc] at parts
          have above := List.append_inj_left' parts rfl
          obtain ⟨q, member, spelled⟩ := passes passed rest above nonempty
          exact ⟨q, List.mem_cons_of_mem x member, spelled⟩

/-- The way up comes by every beginning of the path, as long as the root of the file system is not
left behind. -/
theorem ascentReaches {p : Path} {paths : List Path} (ascent : Ascent p paths)
    {cs rest : List Component} (whole : p.components = cs ++ rest) (rootless : .root ∉ rest) :
    ∃ nearer d further, paths = nearer ++ d :: further ∧ d.components = cs := by
  induction ascent generalizing rest with
  | @top p top =>
    have nothing : rest = [] := by
      rcases parentless top with empty | root
      · rw [empty] at whole
        exact (List.append_eq_nil_iff.mp whole.symm).2
      · rw [root] at whole
        rcases List.append_eq_singleton_iff.mp whole.symm with ⟨-, isRoot⟩ | ⟨-, nothing⟩
        · rw [isRoot] at rootless
          exact absurd (List.mem_singleton_self _) rootless
        · exact nothing
    rw [nothing, List.append_nil] at whole
    exact ⟨[], p, [], rfl, whole⟩
  | @up p q paths parent further ih =>
    rcases List.eq_nil_or_concat rest with rfl | ⟨rest, c, rfl⟩
    · rw [List.append_nil] at whole
      exact ⟨[], p, paths, rfl, whole⟩
    -- A parent drops the last component, which is one of the rest.
    · obtain ⟨last, -, parts⟩ := parentComponents parent
      rw [List.concat_eq_append, ← List.append_assoc] at whole
      rw [List.concat_eq_append, List.mem_append, not_or] at rootless
      have above : q.components = cs ++ rest := List.append_inj_left' (parts.symm.trans whole) rfl
      obtain ⟨nearer, d, beyond, split, here⟩ := ih above rootless.1
      exact ⟨p :: nearer, d, beyond, by rw [split, List.cons_append], here⟩

end SvelteTransform.Path
