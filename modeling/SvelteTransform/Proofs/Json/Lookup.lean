import SvelteTransform.Json.Fields

/-! What is found under a key. Fields built from entries have the last entry of each key, and fields
in order are told apart by what is found in them. -/
namespace SvelteTransform.Fields
variable {α : Type}

def entriesOf (key : String) (entries : List (String × α)) : List (String × α) :=
  entries.filter (key == ·.1)

theorem lookupFirst (key : String) (entries : List (String × α)) :
    entries.lookup key = (entriesOf key entries).head?.map Prod.snd := by
  induction entries with
  | nil => rfl
  | cons entry entries ih =>
    rw [List.lookup_cons, entriesOf, List.filter_cons]
    split
    · rename_i same
      rw [if_pos same]
      rfl
    · rename_i different
      rw [if_neg (by simp [different]), ih]
      rfl

theorem lookupLast (key : String) (entries : List (String × α)) :
    entries.reverse.lookup key = (entriesOf key entries).getLast?.map Prod.snd := by
  rw [lookupFirst, entriesOf, List.filter_reverse, List.head?_reverse]
  rfl

theorem entriesSorted (key : String) (entries : List (String × α)) :
    entriesOf key (entries.mergeSort fun a b => !(b.1 < a.1 : Bool)) = entriesOf key entries := by
  have ofKey {entry : String × α} (isOf : entry ∈ entriesOf key entries) : key = entry.1 :=
    eq_of_beq (List.mem_filter.mp isOf).2
  have equal : (entriesOf key entries).Pairwise fun a b => (!(b.1 < a.1 : Bool)) = true := by
    refine List.pairwise_iff_forall_sublist.mpr fun {a b} pair => neverBack.mpr ?_
    have same : a.1 = b.1 := (ofKey (pair.subset (by simp))).symm.trans
      (ofKey (pair.subset (by simp)))
    exact same ▸ String.le_refl a.1
  have kept := List.sublist_mergeSort neverBackTrans neverBackTotal equal List.filter_sublist
  have among := kept.filter (key == ·.1)
  simp only [entriesOf, List.filter_filter, Bool.and_self] at among
  refine (among.eq_of_length ?_).symm
  exact ((List.mergeSort_perm entries _).filter (key == ·.1)).length_eq.symm

theorem entriesCons (key : String) (entry : String × α) (entries : List (String × α)) :
    entriesOf key (entry :: entries) =
      if key = entry.1 then entry :: entriesOf key entries else entriesOf key entries := by
  simp only [entriesOf, List.filter_cons, beq_iff_eq]

theorem afterLookup {entry : String × α} {rest : List (String × α)}
    (sorted : (entry :: rest).Pairwise fun a b => a.1 ≤ b.1) (key : String) :
    (lastOfEach.after entry rest).lookup key =
      (entriesOf key (entry :: rest)).getLast?.map Prod.snd := by
  -- Of a run of one key only the last entry is left, and after it come other keys.
  induction rest generalizing entry with
  | nil =>
    rw [lookupFirst, lastOfEach.after, entriesCons]
    split <;> rfl
  | cons next rest ih =>
    obtain ⟨least, more⟩ := List.pairwise_cons.mp sorted
    rw [lastOfEach.after]
    split
    · rename_i run
      rw [ih more, entriesCons key entry, entriesCons key next, run]
      split <;> rfl
    · rename_i different
      rw [List.lookup_cons, entriesCons key entry]
      by_cases isKey : key = entry.1
      · have nothing : entriesOf key (next :: rest) = [] := by
          refine List.filter_eq_nil_iff.mpr fun other isIn same => ?_
          have less : entry.1 < next.1 := String.not_le.mp fun back =>
            different (String.le_antisymm (least next List.mem_cons_self) back)
          have afterNext : next.1 ≤ other.1 := by
            rcases List.mem_cons.mp isIn with rfl | later
            · exact String.le_refl _
            · exact (List.pairwise_cons.mp more).1 other later
          rw [← isKey, eq_of_beq same] at less
          exact String.not_le.mpr less afterNext
        rw [if_pos isKey, nothing, isKey, beq_self_eq_true]
        rfl
      · rw [if_neg isKey, show (key == entry.1) = false from beq_false_of_ne isKey, ← ih more]

theorem ofListLookup (entries : List (String × α)) (key : String) :
    (ofList entries).get? key = entries.reverse.lookup key := by
  have sorted := sortedByKey entries
  rw [get?, ofList, lookupLast, ← entriesSorted]
  generalize (entries.mergeSort fun a b => !(b.1 < a.1 : Bool)) = inOrder at sorted ⊢
  cases inOrder with
  | nil => rfl
  | cons entry rest => exact afterLookup sorted key

theorem distinctMember {fields : Fields α} (distinct : fields.keys.Nodup) {key : String} {v : α} :
    (key, v) ∈ fields ↔ fields.get? key = some v := by
  induction fields with
  | nil => exact ⟨nofun, nofun⟩
  | cons entry fields ih =>
    obtain ⟨once, more⟩ := List.nodup_cons.mp distinct
    rw [get?, List.lookup_cons, List.mem_cons]
    split
    · rename_i isKey
      have same := eq_of_beq isKey
      have notLater : (key, v) ∉ fields := by
        intro later
        rw [← same] at once
        exact once (List.mem_map_of_mem later)
      constructor
      · rintro (rfl | later)
        · rfl
        · exact absurd later notLater
      · rintro found
        cases found
        exact .inl (by rw [same])
    · rename_i notKey
      have different := ne_of_beq_false notKey
      refine Iff.trans ⟨?_, .inr⟩ (ih more)
      rintro (rfl | later)
      · exact absurd rfl different
      · exact later

theorem orderedDistinct {fields : Fields α} (ordered : fields.Ordered) : fields.keys.Nodup :=
  ordered.imp String.ne_of_lt

theorem orderedMember {fields : Fields α} (ordered : fields.Ordered) {key : String} {v : α} :
    (key, v) ∈ fields ↔ fields.get? key = some v :=
  distinctMember (orderedDistinct ordered)

theorem orderedKey {fields : Fields α} (ordered : fields.Ordered) {key : String} :
    key ∈ fields.keys ↔ ∃ v, fields.get? key = some v := by
  simp only [← orderedMember ordered, keys, List.mem_map, Prod.exists, exists_and_right,
    exists_eq_right]

theorem ofListMember {entries : List (String × α)} (distinct : (keys entries).Nodup)
    {key : String} {v : α} : (ofList entries).get? key = some v ↔ (key, v) ∈ entries := by
  have reversed : (keys entries.reverse).Nodup := by
    rw [keys, List.map_reverse]
    exact (List.reverse_perm _).symm.nodup distinct
  have found : (key, v) ∈ entries.reverse ↔ get? entries.reverse key = some v :=
    distinctMember reversed
  rw [List.mem_reverse] at found
  rw [ofListLookup, found, get?]

theorem orderedSame {a b : OrderedFields α}
    (same : ∀ key, a.fields.get? key = b.fields.get? key) : a = b := by
  have increasing {fields : Fields α} (ordered : fields.Ordered) :
      fields.Pairwise fun x y => x.1 < y.1 := List.pairwise_map.mp ordered
  have distinct {fields : Fields α} (ordered : fields.Ordered) : fields.Nodup :=
    List.Pairwise.of_map Prod.fst (fun _ _ differ same => differ (congrArg Prod.fst same))
      (orderedDistinct ordered)
  have perm : a.fields.Perm b.fields := by
    refine (List.perm_ext_iff_of_nodup (distinct a.ordered) (distinct b.ordered)).mpr ?_
    intro ⟨key, v⟩
    rw [orderedMember a.ordered, orderedMember b.ordered, same]
  have fields := perm.eq_of_pairwise (fun _ _ _ _ ab ba => absurd ba (String.lt_asymm ab))
    (increasing a.ordered) (increasing b.ordered)
  cases a
  cases b
  cases fields
  rfl

theorem ofListUnique {fields : Fields α} {entries : List (String × α)} (ordered : fields.Ordered)
    (last : ∀ key, fields.get? key = entries.reverse.lookup key) : fields = ofList entries := by
  have same : (⟨fields, ordered⟩ : OrderedFields α) = ⟨ofList entries, ofListOrdered entries⟩ :=
    orderedSame fun key => (last key).trans (ofListLookup entries key).symm
  exact congrArg OrderedFields.fields same

theorem orderedReversed {fields : Fields α} (ordered : fields.Ordered) (key : String) :
    fields.reverse.lookup key = fields.get? key := by
  rw [← ofListLookup, ofListSame ordered]

theorem overlayLookup {base : Fields α} (ordered : base.Ordered) (upper : Fields α) (key : String) :
    (base.overlay upper).get? key = (upper.reverse.lookup key).or (base.get? key) := by
  rw [overlay, ofListLookup, List.reverse_append, List.lookup_append, orderedReversed ordered]

end SvelteTransform.Fields
