/-! Finite maps with text keys, kept in the byte order of their keys. For texts that order is the
order of their code points, so it is the order of core's `<` on `String`. Building fields from
entries puts them in order, and fields in order stay as they are. -/
namespace SvelteTransform

abbrev Fields (α : Type) := List (String × α)

namespace Fields
variable {α : Type}

def lastOfEach : List (String × α) → Fields α
  | [] => []
  | entry :: rest => after entry rest
where
  after (entry : String × α) : List (String × α) → Fields α
    | [] => [entry]
    | next :: rest => if entry.1 = next.1 then after next rest else entry :: after next rest

/-- Of a repeated key the last value stays; sorting leaves the entries of one key in their order. -/
def ofList (entries : List (String × α)) : Fields α :=
  lastOfEach (entries.mergeSort fun a b => !(b.1 < a.1 : Bool))

def get? (fields : Fields α) (key : String) : Option α := fields.lookup key

def overlay (base upper : Fields α) : Fields α := ofList (base ++ upper)

def keys (fields : Fields α) : List String := fields.map Prod.fst

def Ordered (fields : Fields α) : Prop := fields.keys.Pairwise (· < ·)

instance (fields : Fields α) : Decidable fields.Ordered :=
  inferInstanceAs (Decidable (List.Pairwise _ _))

theorem neverBack {a b : String × α} : (!(b.1 < a.1 : Bool)) = true ↔ a.1 ≤ b.1 := by
  rw [Bool.not_eq_true', decide_eq_false_iff_not, String.not_lt]

theorem afterSame {entry : String × α} {rest : List (String × α)}
    (ordered : Fields.Ordered (entry :: rest)) : lastOfEach.after entry rest = entry :: rest := by
  induction rest generalizing entry with
  | nil => rfl
  | cons next rest ih =>
    obtain ⟨least, more⟩ := List.pairwise_cons.mp ordered
    have less : entry.1 < next.1 := least next.1 List.mem_cons_self
    rw [lastOfEach.after, if_neg (String.ne_of_lt less), ih more]

theorem ofListSame {fields : Fields α} (ordered : fields.Ordered) : ofList fields = fields := by
  have sorted : fields.Pairwise fun a b => (!(b.1 < a.1 : Bool)) = true :=
    (List.pairwise_map.mp ordered).imp fun less =>
      neverBack.mpr (String.not_lt.mp (String.lt_asymm less))
  rw [ofList, List.mergeSort_of_pairwise sorted]
  cases fields with
  | nil => rfl
  | cons entry rest => exact afterSame ordered

theorem afterSubset (entry : String × α) (rest : List (String × α)) :
    lastOfEach.after entry rest ⊆ entry :: rest := by
  induction rest generalizing entry with
  | nil => exact fun _ member => member
  | cons next rest ih =>
    rw [lastOfEach.after]
    split
    · exact fun _ member => List.mem_cons_of_mem entry (ih next member)
    · exact List.cons_subset_cons entry (ih next)

theorem ofListSubset (entries : List (String × α)) : ofList entries ⊆ entries := by
  have kept : ∀ sorted : List (String × α), lastOfEach sorted ⊆ sorted := by
    intro sorted
    cases sorted with
    | nil => exact List.nil_subset _
    | cons entry rest => exact afterSubset entry rest
  exact fun _ member => List.mem_mergeSort.mp (kept _ member)

theorem afterOrdered {entry : String × α} {rest : List (String × α)}
    (sorted : (entry :: rest).Pairwise fun a b => a.1 ≤ b.1) :
    Fields.Ordered (lastOfEach.after entry rest) := by
  induction rest generalizing entry with
  | nil => exact List.pairwise_singleton _ _
  | cons next rest ih =>
    obtain ⟨least, more⟩ := List.pairwise_cons.mp sorted
    rw [lastOfEach.after]
    split
    · exact ih more
    · rename_i different
      refine List.pairwise_cons.mpr ⟨fun key member => ?_, ih more⟩
      obtain ⟨other, isIn, rfl⟩ := List.mem_map.mp member
      have afterNext : next.1 ≤ other.1 := by
        rcases List.mem_cons.mp (afterSubset next rest isIn) with rfl | later
        · exact String.le_refl _
        · exact (List.pairwise_cons.mp more).1 other later
      have afterEntry : entry.1 ≤ next.1 := least next List.mem_cons_self
      have beyond : entry.1 < next.1 :=
        String.not_le.mp fun back => different (String.le_antisymm afterEntry back)
      exact String.not_le.mp fun back =>
        String.not_le.mpr beyond (String.le_trans afterNext back)

theorem neverBackTrans (a b c : String × α) (ab : (!(b.1 < a.1 : Bool)) = true)
    (bc : (!(c.1 < b.1 : Bool)) = true) : (!(c.1 < a.1 : Bool)) = true :=
  neverBack.mpr (String.le_trans (neverBack.mp ab) (neverBack.mp bc))

theorem neverBackTotal (a b : String × α) :
    (!(b.1 < a.1 : Bool) || !(a.1 < b.1 : Bool)) = true := by
  rw [Bool.or_eq_true, neverBack, neverBack]
  exact String.le_total a.1 b.1

theorem sortedByKey (entries : List (String × α)) :
    (entries.mergeSort fun a b => !(b.1 < a.1 : Bool)).Pairwise fun a b => a.1 ≤ b.1 :=
  (List.pairwise_mergeSort neverBackTrans neverBackTotal entries).imp neverBack.mp

theorem ofListOrdered (entries : List (String × α)) : (ofList entries).Ordered := by
  have sorted := sortedByKey entries
  rw [ofList]
  generalize (entries.mergeSort fun a b => !(b.1 < a.1 : Bool)) = inOrder at sorted ⊢
  cases inOrder with
  | nil => exact List.Pairwise.nil
  | cons entry rest => exact afterOrdered sorted

end Fields

structure OrderedFields (α : Type) where
  fields : Fields α
  ordered : fields.Ordered
  deriving DecidableEq

end SvelteTransform
