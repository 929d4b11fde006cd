import Proviso.Proofs.Condition.References

/-!
What the references of a condition say. They list every property and every constant that occurs in
it once, in the order of their first occurrences, with the family or the value that they have
wherever they occur. They are refused at the first property and constant of which one lies on the
way to the other.
-/

namespace Proviso

open Text (segments)

/-! ## Occurrences -/

namespace Expr

def property? : Expr → Option (String × Family)
  | .property path _ type _ => some (path, type.family)
  | _ => none

def constant? : Expr → Option (String × Scalar)
  | .constant name value _ => some (name, value)
  | _ => none

def properties (expr : Expr) : List (String × Family) :=
  expr.parts.filterMap property?

def constants (expr : Expr) : List (String × Scalar) :=
  expr.parts.filterMap constant?

variable {scope : Scope} {expr : Expr}

theorem Checked.family_of_mem_properties (checked : expr.Checked scope) {path : String}
    {family : Family} (occurs : (path, family) ∈ expr.properties) :
    ∃ slots type, scope.context.resolve false (segments path) = .ok (slots, type) ∧
      family = type.family := by
  rcases List.mem_filterMap.mp occurs with ⟨part, member, isProperty⟩
  cases part with
  | property path slots type span =>
    cases isProperty
    cases checked.of_mem_parts member with
    | property found => exact ⟨slots, type, found, rfl⟩
  | _ => cases isProperty

theorem Checked.value_of_mem_constants (checked : expr.Checked scope) {name : String}
    {value : Scalar} (occurs : (name, value) ∈ expr.constants) :
    scope.constant? name = some value := by
  rcases List.mem_filterMap.mp occurs with ⟨part, member, isConstant⟩
  cases part with
  | constant name value span =>
    cases isConstant
    cases checked.of_mem_parts member with
    | constant found => exact found
  | _ => cases isConstant

theorem Checked.family_unique (checked : expr.Checked scope) {path : String}
    {family again : Family} (occurs : (path, family) ∈ expr.properties)
    (occursAgain : (path, again) ∈ expr.properties) : family = again := by
  rcases checked.family_of_mem_properties occurs with ⟨slots, type, found, rfl⟩
  rcases checked.family_of_mem_properties occursAgain with ⟨_, _, foundAgain, rfl⟩
  rw [found] at foundAgain
  cases foundAgain
  rfl

theorem Checked.value_unique (checked : expr.Checked scope) {name : String} {value other : Scalar}
    (occurs : (name, value) ∈ expr.constants) (again : (name, other) ∈ expr.constants) :
    value = other := by
  have found := checked.value_of_mem_constants occurs
  rw [checked.value_of_mem_constants again] at found
  exact (Option.some.inj found).symm

end Expr

namespace References

/-! ## Entries -/

section Entries

variable {α : Type}

/-- Adds occurrences one after another, each under a name that has no entry yet. -/
def addAll (entries occurrences : List (String × α)) : List (String × α) :=
  occurrences.foldl (fun entries occurrence => addNew entries occurrence.1 occurrence.2) entries

theorem addNew_of_mem {entries : List (String × α)} {name : String}
    (known : name ∈ entries.map Prod.fst) (value : α) : addNew entries name value = entries := by
  apply if_pos
  simpa using known

theorem addNew_of_notMem {entries : List (String × α)} {name : String}
    (new : name ∉ entries.map Prod.fst) (value : α) :
    addNew entries name value = entries ++ [(name, value)] := by
  apply if_neg
  simpa using new

@[simp] theorem removeAll_nil (names : List String) : names.removeAll [] = names := by
  simp [List.removeAll]

theorem map_fst_addAll (entries occurrences : List (String × α)) :
    (addAll entries occurrences).map Prod.fst = entries.map Prod.fst ++
      ((occurrences.map Prod.fst).removeAll (entries.map Prod.fst)).eraseDups := by
  induction occurrences generalizing entries with
  | nil => simp [addAll]
  | cons occurrence rest induction =>
    rcases occurrence with ⟨name, value⟩
    change (addAll (addNew entries name value) rest).map Prod.fst = _
    rw [induction]
    by_cases known : name ∈ entries.map Prod.fst
    · rw [addNew_of_mem known, List.map_cons, List.cons_removeAll, if_neg]
      simpa using known
    · have same : (rest.map Prod.fst).removeAll (entries.map Prod.fst ++ [name]) =
          ((rest.map Prod.fst).removeAll (entries.map Prod.fst)).filter (!· == name) := by
        simp only [List.removeAll, List.filter_filter]
        apply List.filter_congr
        intro other _
        rw [Bool.eq_iff_iff]
        simp only [List.elem_eq_mem, List.mem_append, List.mem_singleton, Bool.not_eq_true',
          decide_eq_false_iff_not, not_or, Bool.and_eq_true, beq_eq_false_iff_ne, ne_eq, and_comm]
      rw [addNew_of_notMem known, List.map_append, List.map_cons, List.map_nil, same,
        List.map_cons, List.cons_removeAll, if_pos, List.eraseDups_cons, List.append_assoc]
      · rfl
      · simpa using known

theorem mem_of_mem_addAll {entries occurrences : List (String × α)} {entry : String × α}
    (member : entry ∈ addAll entries occurrences) : entry ∈ entries ∨ entry ∈ occurrences := by
  induction occurrences generalizing entries with
  | nil => exact .inl member
  | cons occurrence rest induction =>
    have member : entry ∈ addAll (addNew entries occurrence.1 occurrence.2) rest := member
    rcases induction member with before | later
    · by_cases known : occurrence.1 ∈ entries.map Prod.fst
      · rw [addNew_of_mem known] at before
        exact .inl before
      · rw [addNew_of_notMem known, List.mem_append, List.mem_singleton] at before
        apply before.imp_right
        intro isOccurrence
        rw [isOccurrence]
        exact List.mem_cons_self ..
    · exact .inr (List.mem_cons_of_mem _ later)

theorem subset_addAll {occurrences : List (String × α)}
    (unique : ∀ name value other, (name, value) ∈ occurrences → (name, other) ∈ occurrences →
      value = other) : occurrences ⊆ addAll [] occurrences := by
  intro occurrence occurs
  rcases occurrence with ⟨name, value⟩
  have isName : name ∈ (addAll [] occurrences).map Prod.fst := by
    rw [map_fst_addAll, List.map_nil, List.nil_append, removeAll_nil, List.mem_eraseDups]
    exact List.mem_map_of_mem occurs
  rcases List.mem_map.mp isName with ⟨⟨_, other⟩, isEntry, rfl⟩
  have among := (mem_of_mem_addAll isEntry).resolve_left List.not_mem_nil
  rwa [unique _ value other occurs among]

end Entries

theorem foldl_addPart (references : References) (parts : List Expr) :
    parts.foldl addPart references =
      ⟨addAll references.fields (parts.filterMap Expr.property?),
        addAll references.constants (parts.filterMap Expr.constant?)⟩ := by
  induction parts generalizing references with
  | nil => rfl
  | cons part rest induction =>
    rw [List.foldl_cons, induction]
    cases part <;> rfl

/-- That references list what occurs in an expression: every name once, in the order of the first
occurrences, with the family or the value that it has at every occurrence. -/
structure Lists (references : References) (expr : Expr) : Prop where
  paths : references.paths = (expr.properties.map Prod.fst).eraseDups
  names : references.names = (expr.constants.map Prod.fst).eraseDups
  families : expr.properties ⊆ references.fields
  values : expr.constants ⊆ references.constants

theorem lists_addExpr {scope : Scope} {expr : Expr} (checked : expr.Checked scope) :
    (empty.addExpr expr).Lists expr := by
  rw [addExpr_eq_foldl, foldl_addPart]
  constructor
  case paths =>
    change (addAll [] expr.properties).map Prod.fst = _
    rw [map_fst_addAll, List.map_nil, List.nil_append, removeAll_nil]
  case names =>
    change (addAll [] expr.constants).map Prod.fst = _
    rw [map_fst_addAll, List.map_nil, List.nil_append, removeAll_nil]
  case families => exact subset_addAll fun _ _ _ => checked.family_unique
  case values => exact subset_addAll fun _ _ _ => checked.value_unique

/-! ## Collisions -/

/-- Whether one of two dotted names lies on the way to the other one, or is the same. -/
def Collide (path name : String) : Prop :=
  segments path <+: segments name ∨ segments name <+: segments path

theorem sharedSegment?_eq_some_iff {index segment : Nat} {first second : List String}
    {common : String} (firstNonempty : first ≠ []) (secondNonempty : second ≠ []) :
    sharedSegment? index first second = some (segment, common) ↔
      (first <+: second ∨ second <+: first) ∧ ∃ place,
        segment = index + place ∧ place + 1 = min first.length second.length ∧
          first[place]? = some common ∧ second[place]? = some common := by
  fun_induction sharedSegment? index first second with
  | case1 index name tail =>
    constructor
    · intro found
      cases found
      exact ⟨.inl (by simp), 0, by simp⟩
    · rintro ⟨_, place, rfl, shorter, isLast, _⟩
      have isFirst : place = 0 := by simp at shorter; omega
      subst isFirst
      cases isLast
      rfl
  | case2 index name other tail differ => simp [differ, Ne.symm differ]
  | case3 index tail name nonempty =>
    constructor
    · intro found
      cases found
      exact ⟨.inr (by simp), 0, by simp⟩
    · rintro ⟨_, place, rfl, shorter, isLast, _⟩
      have isFirst : place = 0 := by simp at shorter; omega
      subst isFirst
      cases isLast
      rfl
  | case4 index name tail other nonempty differ => simp [differ, Ne.symm differ]
  | case5 index rest name others restNonempty othersNonempty induction =>
    rw [induction restNonempty othersNonempty]
    simp only [List.cons_prefix_cons, true_and, List.length_cons]
    refine and_congr_right fun _ => ?_
    constructor
    · rintro ⟨place, rfl, shorter, isLast, isOther⟩
      exact ⟨place + 1, by omega, by omega, isLast, isOther⟩
    · rintro ⟨place, rfl, shorter, isLast, isOther⟩
      have behind : place ≠ 0 := by
        have := List.length_pos_iff.mpr restNonempty
        have := List.length_pos_iff.mpr othersNonempty
        omega
      rcases Nat.exists_eq_succ_of_ne_zero behind with ⟨place, rfl⟩
      exact ⟨place, by omega, by omega, isLast, isOther⟩
  | case6 index name rest other others _ _ differ => simp [differ, Ne.symm differ]
  | case7 index first second noName _ noLonger =>
    rcases List.exists_cons_of_ne_nil firstNonempty with ⟨name, rest, rfl⟩
    rcases List.exists_cons_of_ne_nil secondNonempty with ⟨other, others, rfl⟩
    exact (noLonger name rest other others rfl rfl).elim

theorem sharedSegment?_eq_none_iff {path name : String} :
    sharedSegment? 0 (segments path) (segments name) = none ↔ ¬ Collide path name := by
  have shares (place : Nat) (common : String) :
      sharedSegment? 0 (segments path) (segments name) = some (place, common) ↔ _ :=
    sharedSegment?_eq_some_iff (Text.segments_ne_nil path) (Text.segments_ne_nil name)
  rw [Option.eq_none_iff_forall_ne_some, Prod.forall]
  constructor
  · intro nothing collide
    -- The last place of the shorter row holds a name in both of them.
    have pathPositive := List.length_pos_iff.mpr (Text.segments_ne_nil path)
    have namePositive := List.length_pos_iff.mpr (Text.segments_ne_nil name)
    let place := min (segments path).length (segments name).length - 1
    have inPath : place < (segments path).length := by omega
    have inName : place < (segments name).length := by omega
    have same : (segments path)[place] = (segments name)[place] := by
      rcases collide with isPrefix | isPrefix
      · exact isPrefix.getElem inPath
      · exact (isPrefix.getElem inName).symm
    refine nothing place (segments path)[place] ((shares _ _).mpr ⟨collide, place, ?_, ?_, ?_, ?_⟩)
    · exact (Nat.zero_add place).symm
    · omega
    · exact List.getElem?_eq_getElem inPath
    · rw [same, List.getElem?_eq_getElem inName]
  · intro apart place common found
    exact apart ((shares place common).mp found).1

def IsFirstCollision (paths names : List String) (path name : String) : Prop :=
  ∃ pathsBefore pathsAfter namesBefore namesAfter,
    paths = pathsBefore ++ path :: pathsAfter ∧ names = namesBefore ++ name :: namesAfter ∧
      Collide path name ∧ (∀ other ∈ namesBefore, ¬ Collide path other) ∧
        ∀ earlier ∈ pathsBefore, ∀ other ∈ names, ¬ Collide earlier other

structure SharesLast (path name : String) (segment : Nat) (common : String) : Prop where
  isLast : segment + 1 = min (segments path).length (segments name).length
  inPath : (segments path)[segment]? = some common
  inName : (segments name)[segment]? = some common

theorem collisionOf?_eq_none_iff {path : String} {names : List String} :
    collisionOf? path names = none ↔ ∀ name ∈ names, ¬ Collide path name := by
  simp only [collisionOf?, List.findSome?_eq_none_iff, Option.map_eq_none_iff,
    sharedSegment?_eq_none_iff]

theorem collision?_eq_none_iff_apart {paths names : List String} :
    collision? paths names = none ↔ ∀ path ∈ paths, ∀ name ∈ names, ¬ Collide path name := by
  simp only [collision?_eq_none_iff, sharedSegment?_eq_none_iff]

theorem first_of_collision? {paths names : List String} {fault : Fault}
    (found : collision? paths names = some fault) :
    ∃ path name segment common, IsFirstCollision paths names path name ∧
      SharesLast path name segment common ∧ fault = .naming path name segment common := by
  rcases List.findSome?_eq_some_iff.mp found with
    ⟨pathsBefore, path, pathsAfter, isPaths, foundHere, nothingBefore⟩
  rcases List.findSome?_eq_some_iff.mp foundHere with
    ⟨namesBefore, name, namesAfter, isNames, collides, apartBefore⟩
  rcases Option.map_eq_some_iff.mp collides with ⟨⟨segment, common⟩, shared, isFault⟩
  rcases (sharedSegment?_eq_some_iff (Text.segments_ne_nil path) (Text.segments_ne_nil name)).mp
    shared with ⟨collide, place, isPlace, isLast, inPath, inName⟩
  rw [Nat.zero_add] at isPlace
  subst isPlace
  refine ⟨path, name, segment, common, ⟨pathsBefore, pathsAfter, namesBefore, namesAfter, isPaths,
    isNames, collide, ?_, ?_⟩, ⟨isLast, inPath, inName⟩, isFault.symm⟩
  · intro other isBefore
    have nothing := Option.map_eq_none_iff.mp (apartBefore other isBefore)
    exact sharedSegment?_eq_none_iff.mp nothing
  · intro earlier isBefore
    exact collisionOf?_eq_none_iff.mp (nothingBefore earlier isBefore)

/-! ## Outcomes -/

/-- What comes of gathering the references of an expression: the list of what occurs in it, if no
property and constant in the list collide, and otherwise the fault that names the first two. -/
inductive Gathers (expr : Expr) : Except Fault References → Prop where
  | apart {references : References} (lists : references.Lists expr)
    (apart : ∀ path ∈ references.paths, ∀ name ∈ references.names, ¬ Collide path name) :
    Gathers expr (.ok references)
  | collision {references : References} {path name : String} {segment : Nat} {common : String}
    (lists : references.Lists expr)
    (first : IsFirstCollision references.paths references.names path name)
    (shares : SharesLast path name segment common) :
    Gathers expr (.error (.naming path name segment common))

/-- The references of a condition that was read list exactly what occurs in it, unless names
collide. -/
theorem gathers_ofExpr {scope : Scope} {tokens : List Token} {expr : Expr}
    (read : Expr.ofTokens scope tokens = .ok expr) : Gathers expr (ofExpr expr) := by
  have lists := lists_addExpr (Expr.checked_of_ofTokens read).1
  rw [ofExpr]
  split
  case h_1 fault found =>
    rcases first_of_collision? found with ⟨path, name, segment, common, first, shares, rfl⟩
    exact .collision lists first shares
  case h_2 nothing => exact .apart lists (collision?_eq_none_iff_apart.mp nothing)

end References

def Scope.exams : Scope where
  context := ⟨4, "Exam", [⟨"Level", .enum ⟨"Level", [("High", 1)], by decide⟩, none⟩,
    ⟨"Points", .int, none⟩], [("Best", .int 100)]⟩
  library := .empty
  enums := [⟨"Level", [("High", 1)], by decide⟩]
  maxDepth := 1

/-- `Points != Best && Level == Level.High` -/
def Scope.examTokens : List Token :=
  [⟨.identifier "Points", .zero⟩, ⟨.relation .notEqual, .zero⟩, ⟨.identifier "Best", .zero⟩,
    ⟨.and, .zero⟩, ⟨.identifier "Level", .zero⟩, ⟨.relation .equal, .zero⟩,
    ⟨.identifier "Level.High", .zero⟩]

theorem References.gathers_exam :
    ∃ expr, Expr.ofTokens .exams Scope.examTokens = .ok expr ∧ Gathers expr (ofExpr expr) ∧
      ofExpr expr = .error (.naming "Level" "Level.High" 0 "Level") := by
  have refused : ∃ expr, Expr.ofTokens .exams Scope.examTokens = .ok expr ∧
      ofExpr expr = .error (.naming "Level" "Level.High" 0 "Level") :=
    ⟨_, rfl, rfl⟩
  rcases refused with ⟨expr, read, collides⟩
  exact ⟨expr, read, gathers_ofExpr read, collides⟩

end Proviso
