import SvelteTransform.Path

/-! What a path is made of. Its spelling is taken apart at the slashes without loss, so a parent has
the same components but for the last, and a joined path has those of both. -/
namespace SvelteTransform.Path

theorem cutSome (text : List Char) : cut text ≠ [] := by
  cases text with
  | nil => exact nofun
  | cons c text =>
    unfold cut cutAt
    split
    · exact nofun
    · split <;> exact nofun

theorem cutAtSlash (text : List Char) : cut ('/' :: text) = [] :: cut text := rfl

theorem cutAtOther {c : Char} (other : c ≠ '/') {text : List Char} {segment : Segment}
    {more : List Segment} (rest : cut text = segment :: more) :
    cut (c :: text) = (c :: segment) :: more := by
  unfold cut at rest ⊢
  rw [cutAt, if_neg other, rest]

theorem cutSlash (a b : List Char) : cut (a ++ '/' :: b) = cut a ++ cut b := by
  induction a with
  | nil => rfl
  | cons c a ih =>
    by_cases slash : c = '/'
    · rw [slash, List.cons_append, cutAtSlash, cutAtSlash, ih, List.cons_append]
    · obtain ⟨segment, more, first⟩ := List.exists_cons_of_ne_nil (cutSome a)
      rw [first, List.cons_append] at ih
      rw [List.cons_append, cutAtOther slash ih, cutAtOther slash first, List.cons_append]

theorem cutClean {text : List Char} {segment : Segment} (member : segment ∈ cut text) :
    '/' ∉ segment := by
  induction text generalizing segment with
  | nil =>
    rw [List.mem_singleton.mp member]
    exact List.not_mem_nil
  | cons c text ih =>
    by_cases slash : c = '/'
    · rw [slash, cutAtSlash] at member
      rcases List.mem_cons.mp member with first | later
      · rw [first]
        exact List.not_mem_nil
      · exact ih later
    · obtain ⟨first, more, rest⟩ := List.exists_cons_of_ne_nil (cutSome text)
      rw [cutAtOther slash rest] at member
      rw [rest] at ih
      rcases List.mem_cons.mp member with here | later
      · rw [here, List.mem_cons, not_or]
        exact ⟨Ne.symm slash, ih List.mem_cons_self⟩
      · exact ih (List.mem_cons_of_mem _ later)

theorem cutOne {segment : Segment} (clean : '/' ∉ segment) : cut segment = [segment] := by
  induction segment with
  | nil => rfl
  | cons c segment ih =>
    rw [List.mem_cons, not_or] at clean
    exact cutAtOther (Ne.symm clean.1) (ih clean.2)

theorem cutGlue {segments : List Segment} (nonempty : segments ≠ [])
    (clean : ∀ segment ∈ segments, '/' ∉ segment) : cut (glue segments) = segments := by
  induction segments with
  | nil => exact absurd rfl nonempty
  | cons segment more ih =>
    have here := cutOne (clean segment List.mem_cons_self)
    cases more with
    | nil => exact here
    | cons next more =>
      rw [glue, cutSlash, here, ih nofun fun s member => clean s (List.mem_cons_of_mem _ member)]
      · rfl
      · exact nofun

def named (segments : List Segment) : List Component :=
  (segments.filter (!isVacuous ·)).map Component.ofSegment

theorem namedAppend (a b : List Segment) : named (a ++ b) = named a ++ named b := by
  rw [named, List.filter_append, List.map_append]
  rfl

theorem namedVacuous {segments : List Segment} (vacuous : ∀ s ∈ segments, isVacuous s = true) :
    named segments = [] := by
  rw [named, List.filter_eq_nil_iff.mpr, List.map_nil]
  intro segment member
  rw [vacuous segment member]
  exact nofun

theorem namedSolid {segment : Segment} (solid : isVacuous segment = false) :
    named [segment] = [Component.ofSegment segment] := by
  rw [named, List.filter_cons, solid]
  rfl

theorem namedEmpty (segments : List Segment) : named ([] :: segments) = named segments := rfl

theorem namedPlain {segments : List Segment} {c : Component} (member : c ∈ named segments) :
    c ≠ .root ∧ c ≠ .here := by
  obtain ⟨segment, -, rfl⟩ := List.mem_map.mp member
  unfold Component.ofSegment
  split
  · exact ⟨nofun, nofun⟩
  · exact ⟨nofun, nofun⟩

def Start.opening : Start → List Component
  | .root => [.root]
  | .here => [.here]
  | .bare => []

theorem componentsSplit (p : Path) : p.components = p.split.1.opening ++ named p.split.2 := rfl

inductive Form : Path → Start → List Segment → Prop where
  | root (rest : List Char) : Form ⟨'/' :: rest⟩ .root (cut rest)
  | here : Form ⟨['.']⟩ .here []
  | inside (rest : List Char) : Form ⟨'.' :: '/' :: rest⟩ .here ([] :: cut rest)
  | empty : Form ⟨[]⟩ .bare [[]]
  | bare {text : List Char} {first : Segment} {more : List Segment}
      (segments : cut text = first :: more) (solid : isVacuous first = false) :
      Form ⟨text⟩ .bare (first :: more)

theorem splitBare {text : List Char} {first : Segment} {more : List Segment}
    (segments : cut text = first :: more) (solid : isVacuous first = false) :
    Path.split ⟨text⟩ = (.bare, first :: more) := by
  unfold Path.split
  split
  · rename_i rest spelled
    rw [show text = '/' :: rest from spelled, cutAtSlash] at segments
    rw [← (List.cons.inj segments).1] at solid
    cases solid
  · rename_i spelled
    rw [show text = ['.'] from spelled] at segments
    rw [← (List.cons.inj segments).1] at solid
    cases solid
  · rename_i rest spelled
    rw [show text = ['.'] ++ '/' :: rest from spelled, cutSlash] at segments
    rw [← (List.cons.inj segments).1] at solid
    cases solid
  · rw [segments]

theorem Form.split {p : Path} {start : Start} {segments : List Segment}
    (form : Form p start segments) : p.split = (start, segments) := by
  cases form with
  | root | here | inside | empty => rfl
  | bare segments solid => exact splitBare segments solid

theorem formExists (p : Path) : ∃ start segments, Form p start segments := by
  obtain ⟨text⟩ := p
  cases text with
  | nil => exact ⟨_, _, .empty⟩
  | cons c rest =>
    by_cases slash : c = '/'
    · rw [slash]
      exact ⟨_, _, .root rest⟩
    obtain ⟨segment, more, cutRest⟩ := List.exists_cons_of_ne_nil (cutSome rest)
    have segments := cutAtOther slash cutRest
    cases solid : isVacuous (c :: segment) with
    | false => exact ⟨_, _, .bare segments solid⟩
    | true =>
      obtain ⟨rfl, rfl⟩ : c = '.' ∧ segment = [] := by simpa [isVacuous] using solid
      -- A lone `.` comes before: the end of the text, or a slash.
      cases rest with
      | nil => exact ⟨_, _, .here⟩
      | cons d rest =>
        by_cases next : d = '/'
        · rw [next]
          exact ⟨_, _, .inside rest⟩
        · obtain ⟨segment, more, rest⟩ := List.exists_cons_of_ne_nil (cutSome rest)
          rw [cutAtOther next rest] at cutRest
          cases cutRest

theorem formOf (p : Path) : Form p p.split.1 p.split.2 := by
  obtain ⟨start, segments, form⟩ := formExists p
  rw [form.split]
  exact form

theorem Form.components {p : Path} {start : Start} {segments : List Segment}
    (form : Form p start segments) : p.components = start.opening ++ named segments := by
  rw [componentsSplit, form.split]

theorem componentsFront {p : Path} {start : Start} {segments : List Segment}
    (form : Form p start segments) {front rest : List Segment} (whole : segments = front ++ rest)
    (ends : ∀ last ∈ front.getLast?, isVacuous last = false) :
    Path.components ⟨start.spelling ++ glue front⟩ = start.opening ++ named front := by
  have recut : ∀ {text : List Char} {x rest : List Segment}, cut text = x ++ rest → x ≠ [] →
      cut (glue x) = x := by
    intro text x rest cutText nonempty
    have clean : ∀ segment ∈ cut text, '/' ∉ segment := fun segment => cutClean
    rw [cutText] at clean
    exact cutGlue nonempty fun segment member => clean segment (List.mem_append_left _ member)
  cases front with
  | nil => cases start <;> rfl
  | cons first more =>
    cases form with
    | root text =>
      have spelled := (Form.root (glue (first :: more))).components
      rw [recut whole nofun] at spelled
      exact spelled
    | here => cases whole
    | inside text =>
      obtain ⟨rfl, cutText⟩ := List.cons.inj whole
      cases more with
      | nil => cases ends [] rfl
      | cons next more =>
        have spelled := (Form.inside (glue (next :: more))).components
        rw [recut cutText nofun] at spelled
        exact spelled
    | empty =>
      obtain ⟨rfl, others⟩ := List.cons.inj whole
      obtain ⟨rfl, -⟩ := List.append_eq_nil_iff.mp others.symm
      cases ends [] rfl
    | bare segments solid =>
      obtain ⟨rfl, -⟩ := List.cons.inj whole
      exact (Form.bare (recut (segments.trans whole) nofun) solid).components

theorem lastSolid (segments : List Segment) :
    (dropVacuous segments = [] ∧ named segments = []) ∨
    ∃ front last tail, segments = front ++ last :: tail ∧ isVacuous last = false ∧
      named tail = [] ∧ dropVacuous segments = front ++ [last] := by
  have parts : segments = (segments.reverse.dropWhile isVacuous).reverse ++
      (segments.reverse.takeWhile isVacuous).reverse := by
    rw [← List.reverse_append, List.takeWhile_append_dropWhile, List.reverse_reverse]
  have tailVacuous : named (segments.reverse.takeWhile isVacuous).reverse = [] :=
    namedVacuous fun s member =>
      List.all_eq_true.mp List.all_takeWhile s (List.mem_reverse.mp member)
  have headSolid := List.head?_dropWhile_not isVacuous segments.reverse
  rw [dropVacuous]
  cases left : segments.reverse.dropWhile isVacuous with
  | nil =>
    rw [left, List.reverse_nil, List.nil_append] at parts
    rw [← parts] at tailVacuous
    exact .inl ⟨rfl, tailVacuous⟩
  | cons last front =>
    rw [left, List.reverse_cons, List.append_assoc] at parts
    rw [left] at headSolid
    exact .inr ⟨front.reverse, last, _, parts, headSolid, tailVacuous, List.reverse_cons⟩

theorem dropVacuousEnds (segments : List Segment) :
    ∀ last ∈ (dropVacuous segments).getLast?, isVacuous last = false := by
  intro last member
  rcases lastSolid segments with ⟨nothing, -⟩ | ⟨front, solid, tail, -, isSolid, -, left⟩
  · rw [nothing] at member
    cases member
  · rw [left, List.getLast?_concat] at member
    cases member
    exact isSolid

theorem dropVacuousPrefix (segments : List Segment) :
    ∃ tail, segments = dropVacuous segments ++ tail ∧ named tail = [] := by
  rcases lastSolid segments with ⟨nothing, unnamed⟩ | ⟨front, last, tail, whole, -, tailNone, left⟩
  · exact ⟨segments, by rw [nothing, List.nil_append], unnamed⟩
  · exact ⟨tail, by rw [left, ← List.append_cons, ← whole], tailNone⟩

theorem parentSpelled (p : Path) : p.parent =
    if dropVacuous p.split.2 = [] then if p.split.1 = .here then some ⟨[]⟩ else none
    else some ⟨p.split.1.spelling ++ glue (dropVacuous (dropVacuous p.split.2).dropLast)⟩ := by
  rw [Path.parent]
  generalize p.split = parts
  obtain ⟨start, segments⟩ := parts
  dsimp only
  cases dropVacuous segments with
  | nil => rw [if_pos rfl]
  | cons first more => rw [if_neg (List.cons_ne_nil first more)]

theorem parentComponents {p q : Path} (parent : p.parent = some q) :
    ∃ last, last ≠ .root ∧ p.components = q.components ++ [last] := by
  have form := formOf p
  rw [parentSpelled] at parent
  generalize p.split = parts at form parent
  obtain ⟨start, segments⟩ := parts
  rw [form.components]
  rcases lastSolid segments with ⟨nothing, unnamed⟩ |
    ⟨front, last, tail, whole, solid, tailNone, left⟩
  · rw [if_pos nothing] at parent
    split at parent
    · rename_i here
      cases parent
      rw [unnamed, show start = .here from here]
      exact ⟨.here, nofun, rfl⟩
    · cases parent
  · rw [left, if_neg (List.concat_ne_nil _ _), List.dropLast_concat] at parent
    obtain ⟨rest, frontWhole, restNone⟩ := dropVacuousPrefix front
    have parts : segments = dropVacuous front ++ (rest ++ last :: tail) := by
      rw [← List.append_assoc, ← frontWhole, ← whole]
    have respelled := componentsFront form parts (dropVacuousEnds front)
    cases parent
    rw [respelled]
    refine ⟨.ofSegment last, ?_, ?_⟩
    · have one : Component.ofSegment last ∈ named [last] := by
        rw [namedSolid solid]
        exact List.mem_singleton_self _
      exact (namedPlain one).1
    · have frontNamed : named front = named (dropVacuous front) := by
        conv => lhs; rw [frontWhole, namedAppend, restNone, List.append_nil]
      rw [whole, List.append_cons, namedAppend, namedAppend, tailNone, List.append_nil,
        namedSolid solid, frontNamed]
      exact (List.append_assoc _ _ _).symm

theorem parentless {p : Path} (atTop : p.parent = none) :
    p.components = [] ∨ p.components = [.root] := by
  rw [parentSpelled] at atTop
  rw [componentsSplit]
  split at atTop
  · rename_i nothing
    rcases lastSolid p.split.2 with ⟨-, names⟩ | ⟨front, last, tail, -, -, -, left⟩
    · rw [names, List.append_nil]
      cases start : p.split.1 with
      | root => exact .inr rfl
      | bare => exact .inl rfl
      | here =>
        rw [start, if_pos rfl] at atTop
        cases atTop
    · rw [left] at nothing
      exact absurd nothing (List.concat_ne_nil _ _)
  · cases atTop

theorem emptyParentless {p : Path} (empty : p.components = []) : p.parent = none := by
  cases parent : p.parent with
  | none => rfl
  | some q =>
    obtain ⟨last, -, whole⟩ := parentComponents parent
    rw [whole] at empty
    exact absurd empty (List.concat_ne_nil _ _)

theorem namedLength (text : List Char) : (named (cut text)).length ≤ text.length := by
  induction text with
  | nil => exact Nat.le_refl 0
  | cons c text ih =>
    rw [List.length_cons]
    by_cases slash : c = '/'
    · rw [slash, cutAtSlash, namedEmpty]
      exact Nat.le_succ_of_le ih
    · obtain ⟨segment, more, rest⟩ := List.exists_cons_of_ne_nil (cutSome text)
      rw [rest, ← List.singleton_append, namedAppend, List.length_append] at ih
      rw [cutAtOther slash rest, ← List.singleton_append, namedAppend, List.length_append]
      have one : (named [c :: segment]).length ≤ 1 := by
        rw [named, List.length_map]
        exact List.length_filter_le _ _
      omega

theorem componentsLength (p : Path) : p.components.length ≤ p.spelling.length := by
  obtain ⟨start, segments, form⟩ := formExists p
  rw [form.components, List.length_append]
  cases form with
  | root rest =>
    have bound := namedLength rest
    simp only [Start.opening, List.length_cons, List.length_nil]
    omega
  | here => exact Nat.le_refl 1
  | inside rest =>
    have bound := namedLength rest
    simp only [namedEmpty, Start.opening, List.length_cons, List.length_nil]
    omega
  | empty => exact Nat.le_refl 0
  | @bare text first more cutText solid =>
    have bound := namedLength text
    rw [cutText] at bound
    simp only [Start.opening, List.length_nil]
    omega

theorem componentsSlash {text : List Char} (nonempty : text ≠ []) (more : List Char) :
    Path.components ⟨text ++ '/' :: more⟩ = Path.components ⟨text⟩ ++ named (cut more) := by
  obtain ⟨start, segments, form⟩ := formExists ⟨text⟩
  cases form with
  | root rest =>
    have longer := (Form.root (rest ++ '/' :: more)).components
    rw [cutSlash, namedAppend, ← List.append_assoc] at longer
    rw [(Form.root rest).components]
    exact longer
  | here => exact (Form.inside more).components
  | inside rest =>
    have longer := (Form.inside (rest ++ '/' :: more)).components
    rw [cutSlash, namedEmpty, namedAppend, ← List.append_assoc] at longer
    rw [(Form.inside rest).components]
    exact longer
  | empty => exact absurd rfl nonempty
  | @bare text first others cutText solid =>
    have cutLonger : cut (text ++ '/' :: more) = first :: (others ++ cut more) := by
      rw [cutSlash, cutText, List.cons_append]
    rw [(Form.bare cutLonger solid).components, (Form.bare cutText solid).components,
      ← List.cons_append, namedAppend, ← List.append_assoc]

theorem joinComponents {p q : Path} (nonempty : p.spelling ≠ [])
    (relative : q.isAbsolute = false) :
    (p.join q).components = p.components ++ named (cut q.spelling) := by
  obtain ⟨text⟩ := p
  rw [Path.join, relative, if_neg Bool.false_ne_true, decide_eq_false nonempty, Bool.false_or]
  split
  · rename_i slashed
    obtain ⟨front, rfl⟩ := List.getLast?_eq_some_iff.mp (of_decide_eq_true slashed)
    rw [List.append_assoc, List.singleton_append]
    by_cases nothing : front = []
    · rw [nothing]
      exact (Form.root q.spelling).components
    · have nothingNamed : named (cut []) = [] := rfl
      rw [componentsSlash nothing, componentsSlash nothing, nothingNamed, List.append_nil]
  · exact componentsSlash nonempty q.spelling

theorem joinNothing {p : Path} (nothing : p.spelling = []) (q : Path) : p.join q = q := by
  rw [Path.join, nothing]
  split <;> rfl

theorem relativeNamed {q : Path} (relative : q.isAbsolute = false) :
    q.components = named (cut q.spelling) ∨ q.components = .here :: named (cut q.spelling) := by
  obtain ⟨start, segments, form⟩ := formExists q
  rw [form.components]
  cases form with
  | root rest => cases relative
  | here => exact .inr rfl
  | inside rest => exact .inr rfl
  | empty => exact .inl rfl
  | bare cutText solid =>
    rw [cutText]
    exact .inl rfl

theorem absoluteComponents {q : Path} (absolute : q.isAbsolute = true) :
    ∃ segments, q.components = .root :: named segments := by
  obtain ⟨text⟩ := q
  cases text with
  | nil => cases absolute
  | cons c rest =>
    obtain rfl : c = '/' := Option.some.inj (of_decide_eq_true absolute)
    exact ⟨_, (Form.root rest).components⟩

end SvelteTransform.Path
