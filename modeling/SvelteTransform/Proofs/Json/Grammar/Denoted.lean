import SvelteTransform.Proofs.Json.Grammar.Values

/-! What the value of a tree is like. Its keys are in order at every depth, and it nests no deeper
than the tree; less deep, if what nests deepest stands under a key that comes again. -/
namespace SvelteTransform.Json

theorem orderedMembers {members : List (String × Json)} :
    OrderedMembers members ↔ ∀ member ∈ members, Ordered member.2 := by
  induction members with
  | nil => exact ⟨fun _ => nofun, fun _ => trivial⟩
  | cons member members ih => rw [OrderedMembers, ih, List.forall_mem_cons]

theorem objectOrdered {entries : List (String × Json)} (ordered : OrderedMembers entries) :
    Ordered (.object (Fields.ofList entries)) := by
  refine ⟨Fields.ofListOrdered entries, orderedMembers.mpr fun member isIn => ?_⟩
  exact orderedMembers.mp ordered member (Fields.ofListSubset entries isIn)

theorem nestingWithin {members : List (String × Json)} {n : Nat} :
    nestingMembers members ≤ n ↔ ∀ member ∈ members, nesting member.2 ≤ n := by
  induction members with
  | nil => exact ⟨fun _ => nofun, fun _ => Nat.zero_le n⟩
  | cons member members ih => rw [nestingMembers, Nat.max_le, ih, List.forall_mem_cons]

theorem ofListNesting (entries : List (String × Json)) :
    nestingMembers (Fields.ofList entries) ≤ nestingMembers entries :=
  nestingWithin.mpr fun member isIn =>
    nestingWithin.mp (Nat.le_refl _) member (Fields.ofListSubset entries isIn)

mutual
theorem denotesOrdered : {tree : Tree} → {v : Json} → Denotes tree v → Ordered v
  | _, _, .null => trivial
  | _, _, .boolean _ => trivial
  | _, _, .number _ => trivial
  | _, _, .string _ => trivial
  | _, _, .array each => denotesItemsOrdered each
  | _, _, .object each ordered last => by
    rw [Fields.ofListUnique ordered last]
    exact objectOrdered (denotesMembersOrdered each)
theorem denotesItemsOrdered : {items : List Tree} → {vs : List Json} → DenotesItems items vs →
    OrderedItems vs
  | _, _, .nil => trivial
  | _, _, .cons head tail => ⟨denotesOrdered head, denotesItemsOrdered tail⟩
theorem denotesMembersOrdered : {members : List (Quoted × Tree)} →
    {entries : List (String × Json)} → DenotesMembers members entries → OrderedMembers entries
  | _, _, .nil => trivial
  | _, _, .cons _ head tail => ⟨denotesOrdered head, denotesMembersOrdered tail⟩
end

mutual
theorem denotesNesting : {tree : Tree} → {v : Json} → Denotes tree v → nesting v ≤ tree.nesting
  | _, _, .null => Nat.le_refl 0
  | _, _, .boolean _ => Nat.le_refl 0
  | _, _, .number _ => Nat.le_refl 0
  | _, _, .string _ => Nat.le_refl 0
  | _, _, .array each => Nat.succ_le_succ (denotesItemsNesting each)
  | _, _, .object each ordered last => by
    rw [Fields.ofListUnique ordered last]
    exact Nat.succ_le_succ (Nat.le_trans (ofListNesting _) (denotesMembersNesting each))
theorem denotesItemsNesting : {items : List Tree} → {vs : List Json} → DenotesItems items vs →
    nestingItems vs ≤ Tree.nestingItems items
  | _, _, .nil => Nat.le_refl 0
  | _, _, .cons head tail => by
    have first := denotesNesting head
    have others := denotesItemsNesting tail
    rw [nestingItems, Tree.nestingItems]
    omega
theorem denotesMembersNesting : {members : List (Quoted × Tree)} →
    {entries : List (String × Json)} → DenotesMembers members entries →
      nestingMembers entries ≤ Tree.nestingMembers members
  | _, _, .nil => Nat.le_refl 0
  | _, _, .cons _ head tail => by
    have first := denotesNesting head
    have others := denotesMembersNesting tail
    rw [nestingMembers, Tree.nestingMembers]
    omega
end

end SvelteTransform.Json
