import Proviso.Message.Template
import Proviso.Proofs.Message.Pieces
import Proviso.Proofs.Outcome

/-!
Formatting a message is one pass over the placeholders of its source. Although the values are put
in by replacing identifiers in the whole text, one item after the other, every placeholder gives
way in its own place to what it means, as long as no identifier occurs where none was put; what is
put in is not read again.
-/

namespace Proviso.Message

open Outcome
open Text (byteLength)

/-! ## The pass -/

namespace Placeholder

def isLive (placeholder : Placeholder) : Bool :=
  placeholder.opening % 2 = 1

end Placeholder

theorem Item.body_ofPlaceholder (found : Placeholder) :
    (Item.ofPlaceholder found).body = String.ofList found.body := by
  rw [body, Placeholder.body]
  cases label : found.isLabel <;> simp [ofPlaceholder, Placeholder.labelMark, label]

namespace Resolver

/-- What is put in for a path: the name of the field, by default the path itself, or its value. -/
def meaning (resolver : Resolver) (path : String) (isLabel : Bool) : String :=
  if isLabel then (resolver.label? path).getD path else (resolver.value? path).getD ""

/-- What a placeholder gives way to: half of the braces around its meaning, or around its own
text if it is not live. -/
def shown (resolver : Resolver) (placeholder : Placeholder) : List Char :=
  let braces := placeholder.opening / 2
  let body :=
    if placeholder.isLive then
      (resolver.meaning (String.ofList placeholder.path) placeholder.isLabel).toList
    else placeholder.body
  List.replicate braces '\x7b' ++ body ++ List.replicate braces '\x7d'

def shownPiece (resolver : Resolver) : Piece → List Char
  | .char value => [value]
  | .placeholder value => resolver.shown value

def isMissing (resolver : Resolver) : Piece → Bool
  | .char _ => false
  | .placeholder value =>
    value.isLive && !value.isLabel && (resolver.value? (String.ofList value.path)).isNone

end Resolver

namespace Piece

def isBalanced : Piece → Bool
  | .char _ => true
  | .placeholder value => value.opening == value.closing

def toPart : Piece → Part
  | .char value => .char value
  | .placeholder value =>
    .item (Item.ofPlaceholder value) (Template.remainingBraces value.opening)

end Piece

namespace Resolver

/-! ## Texts of items -/

def lacksValue (resolver : Resolver) (item : Item) : Bool :=
  !item.isLabel && (resolver.value? item.path).isNone

theorem itemText_eq (resolver : Resolver) (item : Item) :
    resolver.itemText item =
      if resolver.lacksValue item then .error (.format (.noValue item.body))
      else .ok (resolver.meaning item.path item.isLabel) := by
  unfold itemText lacksValue meaning
  cases item.isLabel with
  | true => rfl
  | false => cases resolver.value? item.path <;> rfl

theorem replaceItems_of_lacksValue {resolver : Resolver} (identifier : Item → String)
    {items : List Item} {item : Item}
    (first : items.find? resolver.lacksValue = some item) (output : List Char) :
    resolver.replaceItems identifier items output = .error (.format (.noValue item.body)) := by
  induction items generalizing output with
  | nil => cases first
  | cons other rest induction =>
    rw [replaceItems, itemText_eq]
    by_cases lacks : resolver.lacksValue other = true
    · rw [List.find?_cons_of_pos lacks] at first
      cases first
      rw [if_pos lacks]
      rfl
    · rw [List.find?_cons_of_neg lacks] at first
      rw [if_neg lacks]
      exact induction first _

end Resolver

/-! ## Reading -/

namespace Template

theorem partsFrom_of_isBalanced {pieces : List Piece}
    (balanced : ∀ piece ∈ pieces, piece.isBalanced = true) (position : Nat) :
    partsFrom position pieces = .ok (pieces.map Piece.toPart) := by
  induction pieces generalizing position with
  | nil => rfl
  | cons piece rest induction =>
    rw [List.forall_mem_cons] at balanced
    cases piece with
    | char value =>
      rw [partsFrom, induction balanced.2]
      rfl
    | placeholder found =>
      have equal : found.opening = found.closing := beq_iff_eq.mp balanced.1
      rw [partsFrom, if_pos equal, induction balanced.2]
      rfl

theorem partsFrom_of_unbalanced {before after : List Piece} {found : Placeholder}
    (balanced : ∀ piece ∈ before, piece.isBalanced = true)
    (unequal : found.opening ≠ found.closing) (position : Nat) :
    partsFrom position (before ++ .placeholder found :: after) =
      .error (.format (.unbalanced (String.ofList found.written)
        (position + byteLength (before.flatMap Piece.written)) found.opening found.closing)) := by
  induction before generalizing position with
  | nil =>
    rw [List.nil_append, partsFrom, if_neg unequal]
    rfl
  | cons piece rest induction =>
    rw [List.forall_mem_cons] at balanced
    have later := induction balanced.2
    cases piece with
    | char value =>
      rw [List.cons_append, partsFrom, later, List.flatMap_cons, Text.byteLength_append,
        ← Nat.add_assoc]
      simp [Except.map, Piece.written]
    | placeholder other =>
      have equal : other.opening = other.closing := beq_iff_eq.mp balanced.1
      rw [List.cons_append, partsFrom, if_pos equal, later, List.flatMap_cons,
        Text.byteLength_append, ← Nat.add_assoc]
      rfl

theorem remainingBraces_eq (opening : Nat) : remainingBraces opening = opening / 2 := by
  unfold remainingBraces
  split <;> omega

/-! ## Items -/

def item? : Part → Option Item
  | .char _ => none
  | .item value _ => some value

theorem addItem_eq (items : List Item) (part : Part) :
    addItem items part = match item? part with
      | some item => if item ∈ items then items else items ++ [item]
      | none => items := by
  cases part with
  | char value => rfl
  | item value braces => simp [addItem, item?]

theorem nodup_foldl_addItem {items : List Item} (nodup : items.Nodup) (parts : List Part) :
    (parts.foldl addItem items).Nodup := by
  induction parts generalizing items with
  | nil => exact nodup
  | cons part rest induction =>
    apply induction
    rw [addItem_eq]
    cases item? part with
    | none => exact nodup
    | some item =>
      dsimp only
      split
      case isTrue => exact nodup
      case isFalse absent =>
        rw [List.nodup_append]
        refine ⟨nodup, List.pairwise_singleton .., fun known member added isAdded equal => ?_⟩
        rw [List.mem_singleton.mp isAdded] at equal
        exact absent (equal ▸ member)

theorem mem_foldl_addItem {items : List Item} {item : Item} {parts : List Part} :
    item ∈ parts.foldl addItem items ↔ item ∈ items ∨ ∃ part ∈ parts, item? part = some item := by
  induction parts generalizing items with
  | nil => simp
  | cons part rest induction =>
    have either : (∃ other ∈ part :: rest, item? other = some item) ↔
        item? part = some item ∨ ∃ other ∈ rest, item? other = some item := by
      simp only [List.mem_cons, exists_eq_or_imp]
    rw [List.foldl_cons, induction, addItem_eq, either, ← or_assoc]
    apply or_congr_left
    cases item? part with
    | none => simp
    | some other =>
      dsimp only
      split
      case isTrue known =>
        constructor
        · exact .inl
        · rintro (member | equal)
          · exact member
          · exact Option.some.inj equal ▸ known
      case isFalse => simp [eq_comm]

theorem find?_foldl_addItem (property : Item → Bool) (items : List Item) (parts : List Part) :
    (parts.foldl addItem items).find? property =
      (items.find? property).or ((parts.filterMap item?).find? property) := by
  induction parts generalizing items with
  | nil => simp
  | cons part rest induction =>
    rw [List.foldl_cons, induction, addItem_eq]
    cases occurs : item? part with
    | none => rw [List.filterMap_cons_none occurs]
    | some item =>
      rw [List.filterMap_cons_some occurs]
      dsimp only
      split
      case isFalse => rw [List.find?_append, Option.or_assoc, ← List.find?_append]; rfl
      case isTrue known =>
        -- An item that is known has the property only if an earlier one was found already.
        cases earlier : items.find? property with
        | some found => rfl
        | none =>
          have lacks := List.find?_eq_none.mp earlier item known
          rw [Option.none_or, Option.none_or, List.find?_cons_of_neg lacks]

variable {template : Template}

theorem nodup_liveItems (template : Template) : template.liveItems.Nodup :=
  (nodup_foldl_addItem List.nodup_nil _).filter _

theorem mem_liveItems {item : Item} :
    item ∈ template.liveItems ↔
      (∃ part ∈ template.parts, item? part = some item) ∧ item.isEscaped = false := by
  simp [liveItems, items, mem_foldl_addItem]

/-! ## Places of identifiers -/

def placesFrom (substitute : Item → String) (item : Item) : Nat → List Part → List Nat
  | _, [] => []
  | position, part :: rest =>
    let later := placesFrom substitute item (position + (partText substitute part).length) rest
    match part with
    | .char _ => later
    | .item value braces => if value = item then (position + braces) :: later else later

theorem mem_placesFrom_cons {substitute : Item → String} {item : Item} {position place : Nat}
    {part : Part} {rest : List Part} :
    place ∈ placesFrom substitute item position (part :: rest) ↔
      (∃ braces, part = .item item braces ∧ place = position + braces) ∨
        place ∈ placesFrom substitute item (position + (partText substitute part).length) rest := by
  cases part with
  | char value => simp [placesFrom]
  | item value braces =>
    rw [placesFrom]
    by_cases same : value = item <;> simp [same]

theorem le_of_mem_placesFrom {substitute : Item → String} {item : Item} {position place : Nat}
    {parts : List Part} (member : place ∈ placesFrom substitute item position parts) :
    position ≤ place := by
  induction parts generalizing position with
  | nil => cases member
  | cons part rest induction =>
    rcases mem_placesFrom_cons.mp member with ⟨braces, _, rfl⟩ | later
    · exact Nat.le_add_right _ _
    · exact Nat.le_trans (Nat.le_add_right _ _) (induction later)

def given (substitute : Item → String) (item : Item) (text : String) : Item → String :=
  fun other => if other = item then text else substitute other

theorem replace_partText_append {substitute : Item → String} {item : Item} {part : Part}
    {behind : List Char} (nonempty : (substitute item).toList ≠ []) (text : String)
    (only : ∀ index < (partText substitute part).length,
      (substitute item).toList <+: (partText substitute part ++ behind).drop index →
        ∃ braces, part = .item item braces ∧ index = braces) :
    Text.replace (substitute item).toList text.toList (partText substitute part ++ behind) =
      partText (given substitute item text) part ++
        Text.replace (substitute item).toList text.toList behind := by
  by_cases isItem : ∃ braces, part = .item item braces
  · rcases isItem with ⟨braces, rfl⟩
    have single : ∀ index < (partText substitute (.item item braces)).length,
        (substitute item).toList <+:
            (partText substitute (.item item braces) ++ behind).drop index →
          index = (List.replicate braces '\x7b').length := by
      intro index inside occurs
      rcases only index inside occurs with ⟨_, equal, rfl⟩
      injection equal with _ same
      rw [List.length_replicate, same]
    have shown : partText (given substitute item text) (.item item braces) =
        List.replicate braces '\x7b' ++ text.toList ++ List.replicate braces '\x7d' := by
      rw [partText, given, if_pos rfl]
    rw [shown]
    exact Text.replace_append_of_single nonempty _ single
  · have absent : ∀ index < (partText substitute part).length,
        ¬ (substitute item).toList <+: (partText substitute part ++ behind).drop index := by
      intro index inside occurs
      rcases only index inside occurs with ⟨braces, equal, _⟩
      exact isItem ⟨braces, equal⟩
    have kept : partText (given substitute item text) part = partText substitute part := by
      cases part with
      | char value => rfl
      | item value braces =>
        have different : value ≠ item := fun equal => isItem ⟨braces, by rw [equal]⟩
        rw [partText, partText, given, if_neg different]
    rw [Text.replace_append_of_absent _ absent, kept]

/-- Replacing the text of an item gives the item another text, if that text occurs only where the
item stands. -/
theorem replace_flatMap_partText {substitute : Item → String} {item : Item}
    (nonempty : (substitute item).toList ≠ []) (text : String) (parts : List Part)
    (position : Nat)
    (only : ∀ index,
      (substitute item).toList <+: (parts.flatMap (partText substitute)).drop index →
        position + index ∈ placesFrom substitute item position parts) :
    Text.replace (substitute item).toList text.toList (parts.flatMap (partText substitute)) =
      parts.flatMap (partText (given substitute item text)) := by
  induction parts generalizing position with
  | nil => rfl
  | cons part rest induction =>
    rw [List.flatMap_cons] at only
    have within : ∀ index < (partText substitute part).length,
        (substitute item).toList <+:
            (partText substitute part ++ rest.flatMap (partText substitute)).drop index →
          ∃ braces, part = .item item braces ∧ index = braces := by
      intro index inside occurs
      rcases mem_placesFrom_cons.mp (only index occurs) with ⟨braces, isItem, place⟩ | later
      · exact ⟨braces, isItem, Nat.add_left_cancel place⟩
      · have beyond := le_of_mem_placesFrom later
        omega
    have behind : ∀ index,
        (substitute item).toList <+: (rest.flatMap (partText substitute)).drop index →
          position + (partText substitute part).length + index ∈
            placesFrom substitute item (position + (partText substitute part).length) rest := by
      intro index occurs
      have shifted := only ((partText substitute part).length + index)
      rw [← List.drop_drop, List.drop_left, ← Nat.add_assoc] at shifted
      rcases mem_placesFrom_cons.mp (shifted occurs) with ⟨braces, rfl, place⟩ | later
      · -- The text of an item is not empty, so the item ends behind the place of that text.
        have wide : braces < (partText substitute (.item item braces)).length := by
          have taken := List.length_pos_iff.mpr nonempty
          rw [partText, List.length_append, List.length_append, List.length_replicate]
          omega
        omega
      · exact later
    rw [List.flatMap_cons, List.flatMap_cons, replace_partText_append nonempty text within,
      induction _ behind]

/-! ## Stages -/

def stage (template : Template) (identifiers : Identifiers) (resolver : Resolver)
    (done : List Item) (item : Item) : String :=
  if item ∈ done then resolver.meaning item.path item.isLabel
  else item.substitution (template.identifier identifiers item)

/-- When the identifier of an item is looked for, it occurs only where it was put in for the
item: neither in the rest of the template nor in the texts that have been put in already. -/
def IdentifiersStandOut (template : Template) (identifiers : Identifiers) (resolver : Resolver) :
    Prop :=
  ∀ index : Fin template.liveItems.length,
    let item := template.liveItems[index]
    let substitute := template.stage identifiers resolver (template.liveItems.take index)
    ∀ position < (template.chars substitute).length,
      (template.identifier identifiers item).toList <+: (template.chars substitute).drop position →
        position ∈ placesFrom substitute item 0 template.parts

instance (template : Template) (identifiers : Identifiers) (resolver : Resolver) :
    Decidable (template.IdentifiersStandOut identifiers resolver) :=
  inferInstanceAs (Decidable (∀ _ : Fin template.liveItems.length, ∀ position < _, _ → _))

theorem IdentifiersStandOut.of_split {identifiers : Identifiers} {resolver : Resolver}
    (standOut : template.IdentifiersStandOut identifiers resolver) {done todo : List Item}
    {item : Item} (split : template.liveItems = done ++ item :: todo) (position : Nat)
    (occurs : (template.identifier identifiers item).toList <+:
      (template.chars (template.stage identifiers resolver done)).drop position) :
    position ∈ placesFrom (template.stage identifiers resolver done) item 0 template.parts := by
  have inside : done.length < template.liveItems.length := by
    rw [split, List.length_append, List.length_cons]
    omega
  have chosen : template.liveItems[done.length] = item := by simp [split]
  have earlier : template.liveItems.take done.length = done := by rw [split, List.take_left]
  have nonempty : (template.identifier identifiers item).toList ≠ [] := fun equal =>
    identifiers.nonempty _ (String.toList_inj.mp equal)
  have within : position < (template.chars (template.stage identifiers resolver done)).length := by
    apply Nat.lt_of_not_le
    intro beyond
    rw [List.drop_of_length_le beyond] at occurs
    exact nonempty (List.prefix_nil.mp occurs)
  have places := standOut ⟨done.length, inside⟩ position
  simp only [Fin.getElem_fin, chosen, earlier] at places
  exact places within occurs

theorem replaceItems_stage {identifiers : Identifiers} {resolver : Resolver}
    (standOut : template.IdentifiersStandOut identifiers resolver) {done todo : List Item}
    (split : template.liveItems = done ++ todo)
    (complete : ∀ item ∈ todo, resolver.lacksValue item = false) :
    resolver.replaceItems (template.identifier identifiers) todo
        (template.chars (template.stage identifiers resolver done)) =
      .ok (template.chars (template.stage identifiers resolver template.liveItems)) := by
  induction todo generalizing done with
  | nil => rw [split, List.append_nil]; rfl
  | cons item rest induction =>
    rw [List.forall_mem_cons] at complete
    let substitute := template.stage identifiers resolver done
    have distinct : (done ++ item :: rest).Nodup := split ▸ nodup_liveItems template
    have notDone : item ∉ done := fun member =>
      (List.nodup_append.mp distinct).2.2 item member item (List.mem_cons_self ..) rfl
    have isLive : item.isEscaped = false :=
      (mem_liveItems.mp (split ▸ List.mem_append_right done (List.mem_cons_self ..))).2
    have identified : substitute item = template.identifier identifiers item := by
      simp [substitute, stage, notDone, Item.substitution, isLive]
    -- Its identifier stands nowhere else, so that only its own places are replaced.
    have nonempty : (substitute item).toList ≠ [] := fun equal =>
      identifiers.nonempty _ (String.toList_inj.mp (identified ▸ equal))
    have next : given substitute item (resolver.meaning item.path item.isLabel) =
        template.stage identifiers resolver (done ++ [item]) := by
      funext other
      by_cases same : other = item <;> simp [given, substitute, stage, same]
    have replaced : Text.replace (template.identifier identifiers item).toList
          (resolver.meaning item.path item.isLabel).toList (template.chars substitute) =
        template.chars (template.stage identifiers resolver (done ++ [item])) := by
      rw [← next, ← identified]
      refine replace_flatMap_partText nonempty _ template.parts 0 fun index occurs => ?_
      rw [Nat.zero_add]
      exact standOut.of_split split index (identified ▸ occurs)
    rw [Resolver.replaceItems, Resolver.itemText_eq, complete.1]
    have splitBehind : template.liveItems = (done ++ [item]) ++ rest := by simpa using split
    exact (congrArg _ replaced).trans (induction splitBehind complete.2)

end Template

/-! ## Formatting -/

section Pass

variable {pieces : List Piece} {resolver : Resolver}

theorem find?_liveItems_map_toPart (resolver : Resolver) (pieces : List Piece) :
    (Template.mk (pieces.map Piece.toPart)).liveItems.find? resolver.lacksValue =
      (pieces.find? resolver.isMissing).bind fun piece => Template.item? piece.toPart := by
  rw [Template.liveItems, Template.items, List.find?_filter, Template.find?_foldl_addItem,
    List.find?_nil, Option.none_or, List.filterMap_map, List.find?_filterMap]
  congr 2
  funext piece
  cases piece with
  | char value => rfl
  | placeholder found =>
    have live : (!decide (found.opening % 2 = 0)) = decide (found.opening % 2 = 1) := by
      rcases Nat.mod_two_eq_zero_or_one found.opening with even | odd
      · simp [even]
      · simp [odd]
    cases value : resolver.value? (String.ofList found.path) <;>
      simp [Piece.toPart, Template.item?, Item.ofPlaceholder, Resolver.lacksValue,
        Resolver.isMissing, Placeholder.isLive, live, value]

theorem stage_liveItems_ofPlaceholder (identifiers : Identifiers) (resolver : Resolver)
    {found : Placeholder} (member : .placeholder found ∈ pieces) :
    let template := Template.mk (pieces.map Piece.toPart)
    (template.stage identifiers resolver template.liveItems (Item.ofPlaceholder found)).toList =
      if found.isLive then
        (resolver.meaning (String.ofList found.path) found.isLabel).toList
      else found.body := by
  intro template
  let item := Item.ofPlaceholder found
  have occurs : ∃ part ∈ template.parts, Template.item? part = some item :=
    ⟨_, List.mem_map_of_mem member, rfl⟩
  rcases Nat.mod_two_eq_zero_or_one found.opening with even | odd
  · have isEscaped : item.isEscaped = true := decide_eq_true even
    have notLive : item ∉ template.liveItems := fun isLive => by
      rw [Template.mem_liveItems, isEscaped] at isLive
      exact Bool.false_ne_true isLive.2.symm
    have stands : template.stage identifiers resolver template.liveItems item = item.body := by
      rw [Template.stage, if_neg notLive, Item.substitution, if_pos isEscaped]
    have dead : ¬ found.isLive = true := by simp [Placeholder.isLive, even]
    rw [if_neg dead, stands, Item.body_ofPlaceholder, String.toList_ofList]
  · have isEscaped : item.isEscaped = false := decide_eq_false (by omega)
    have isLive : item ∈ template.liveItems := Template.mem_liveItems.mpr ⟨occurs, isEscaped⟩
    have stands : template.stage identifiers resolver template.liveItems item =
        resolver.meaning item.path item.isLabel := if_pos isLive
    have live : found.isLive = true := decide_eq_true odd
    rw [if_pos live, stands]
    rfl

theorem chars_stage_liveItems (identifiers : Identifiers) (resolver : Resolver)
    (pieces : List Piece) :
    let template := Template.mk (pieces.map Piece.toPart)
    template.chars (template.stage identifiers resolver template.liveItems) =
      pieces.flatMap resolver.shownPiece := by
  intro template
  rw [Template.chars, List.flatMap_map, List.flatMap_def, List.flatMap_def]
  refine congrArg List.flatten (List.map_congr_left fun piece member => ?_)
  cases piece with
  | char value => rfl
  | placeholder found =>
    rw [Piece.toPart, Template.partText, stage_liveItems_ofPlaceholder identifiers resolver member,
      Template.remainingBraces_eq]
    rfl

theorem render_of_complete {identifiers : Identifiers} {resolver : Resolver}
    (complete : ∀ piece ∈ pieces, resolver.isMissing piece = false)
    (standOut : (Template.mk (pieces.map Piece.toPart)).IdentifiersStandOut identifiers resolver) :
    (Template.mk (pieces.map Piece.toPart)).render identifiers resolver =
      .ok (String.ofList (pieces.flatMap resolver.shownPiece)) := by
  let template := Template.mk (pieces.map Piece.toPart)
  have found := find?_liveItems_map_toPart resolver pieces
  have noneMissing : pieces.find? resolver.isMissing = none :=
    List.find?_eq_none.mpr fun piece member => by simp [complete piece member]
  rw [noneMissing, Option.bind_none, List.find?_eq_none] at found
  have given : ∀ item ∈ template.liveItems, resolver.lacksValue item = false :=
    fun item member => Bool.eq_false_iff.mpr (found item member)
  have initial : (template.text identifiers).toList =
      template.chars (template.stage identifiers resolver []) := by
    rw [Template.text, String.toList_ofList]
    rfl
  rw [Template.render, initial, Template.replaceItems_stage standOut rfl given,
    chars_stage_liveItems]
  rfl

theorem render_of_isMissing (identifiers : Identifiers) {resolver : Resolver}
    {before after : List Piece} {found : Placeholder}
    (given : ∀ piece ∈ before, resolver.isMissing piece = false)
    (missing : resolver.isMissing (.placeholder found) = true) :
    (Template.mk ((before ++ .placeholder found :: after).map Piece.toPart)).render
        identifiers resolver =
      .error (.format (.noValue (String.ofList found.body))) := by
  let pieces := before ++ .placeholder found :: after
  have first : pieces.find? resolver.isMissing = some (.placeholder found) := by
    have noneBefore : before.find? resolver.isMissing = none :=
      List.find?_eq_none.mpr fun piece member => by simp [given piece member]
    rw [List.find?_append, noneBefore, Option.none_or, List.find?_cons_of_pos missing]
  have lacking := find?_liveItems_map_toPart resolver pieces
  rw [first, Option.bind_some] at lacking
  rw [Template.render, Resolver.replaceItems_of_lacksValue _ lacking, Item.body_ofPlaceholder]
  rfl

theorem read_of_isBalanced {source : String}
    (balanced : ∀ piece ∈ Message.pieces source.toList, piece.isBalanced = true) :
    Template.read source = .ok (Template.mk ((Message.pieces source.toList).map Piece.toPart)) := by
  rw [Template.read, Template.partsFrom_of_isBalanced balanced]
  rfl

end Pass

theorem exists_first {property : Piece → Bool} {pieces : List Piece}
    (some : ∃ piece ∈ pieces, property piece = true) :
    ∃ before piece after, pieces = before ++ piece :: after ∧ property piece = true ∧
      ∀ earlier ∈ before, property earlier = false := by
  rcases some with ⟨piece, member, holds⟩
  cases first : pieces.find? property with
  | none => exact absurd holds (List.find?_eq_none.mp first piece member)
  | some found =>
    rcases List.find?_eq_some_iff_append.mp first with ⟨isFound, before, after, split, others⟩
    refine ⟨before, found, after, split, isFound, fun earlier isEarlier => ?_⟩
    simpa using others earlier isEarlier

theorem read_of_unbalanced {source : String}
    (unbalanced : ∃ piece ∈ pieces source.toList, piece.isBalanced = false) :
    ∃ before found after, pieces source.toList = before ++ .placeholder found :: after ∧
      (∀ piece ∈ before, piece.isBalanced = true) ∧ found.opening ≠ found.closing ∧
      Template.read source =
        .error (.format (.unbalanced (String.ofList found.written)
          (byteLength (before.flatMap Piece.written)) found.opening found.closing)) := by
  rcases unbalanced with ⟨piece, member, unbalanced⟩
  have some : ∃ piece ∈ pieces source.toList, (!piece.isBalanced) = true :=
    ⟨piece, member, by rw [unbalanced]; rfl⟩
  rcases exists_first some with ⟨before, first, after, split, unequal, others⟩
  have balanced : ∀ piece ∈ before, piece.isBalanced = true :=
    fun piece member => by simpa using others piece member
  cases first with
  | char value => cases unequal
  | placeholder found =>
    have differs : found.opening ≠ found.closing := by simpa [Piece.isBalanced] using unequal
    refine ⟨before, found, after, split, balanced, differs, ?_⟩
    have fails : Template.partsFrom 0 (before ++ .placeholder found :: after) = _ :=
      Template.partsFrom_of_unbalanced balanced differs 0
    rw [Template.read, split, fails, Nat.zero_add]
    rfl

section Faults

variable (identifiers : Identifiers) {source : String} {resolver : Resolver}

theorem format_of_unbalanced
    (unbalanced : ∃ piece ∈ pieces source.toList, piece.isBalanced = false) :
    ∃ before found after, pieces source.toList = before ++ .placeholder found :: after ∧
      (∀ piece ∈ before, piece.isBalanced = true) ∧ found.opening ≠ found.closing ∧
      format identifiers source resolver =
        .error (.format (.unbalanced (String.ofList found.written)
          (byteLength (before.flatMap Piece.written)) found.opening found.closing)) := by
  rcases read_of_unbalanced unbalanced with ⟨before, found, after, split, balanced, differs, fails⟩
  refine ⟨before, found, after, split, balanced, differs, ?_⟩
  rw [format, fails]
  rfl

theorem format_of_isMissing
    (balanced : ∀ piece ∈ pieces source.toList, piece.isBalanced = true)
    (missing : ∃ piece ∈ pieces source.toList, resolver.isMissing piece = true) :
    ∃ before found after, pieces source.toList = before ++ .placeholder found :: after ∧
      (∀ piece ∈ before, resolver.isMissing piece = false) ∧
      resolver.isMissing (.placeholder found) = true ∧
      format identifiers source resolver =
        .error (.format (.noValue (String.ofList found.body))) := by
  rcases exists_first missing with ⟨before, first, after, split, lacks, others⟩
  cases first with
  | char value => cases lacks
  | placeholder found =>
    refine ⟨before, found, after, split, others, lacks, ?_⟩
    rw [format, read_of_isBalanced balanced, split]
    exact render_of_isMissing identifiers others lacks

end Faults

/-- Formatting is one pass from left to right. The source is cut into pieces, which can be done in
one way; the first placeholder with unequal runs of braces is a fault, else the first one without
a value, and else every placeholder gives way in its place to what it means. -/
theorem format_eq_pass (identifiers : Identifiers) (source : String) (resolver : Resolver)
    (standOut : ∀ template, Template.read source = .ok template →
      template.IdentifiersStandOut identifiers resolver) :
    ∃ pieces, (∀ cut, Cut source.toList cut ↔ cut = pieces) ∧
      ((∃ piece ∈ pieces, piece.isBalanced = false) →
        ∃ before found after, pieces = before ++ .placeholder found :: after ∧
          (∀ piece ∈ before, piece.isBalanced = true) ∧ found.opening ≠ found.closing ∧
          format identifiers source resolver =
            .error (.format (.unbalanced (String.ofList found.written)
              (byteLength (before.flatMap Piece.written)) found.opening found.closing))) ∧
      ((∀ piece ∈ pieces, piece.isBalanced = true) →
        (∃ piece ∈ pieces, resolver.isMissing piece = true) →
        ∃ before found after, pieces = before ++ .placeholder found :: after ∧
          (∀ piece ∈ before, resolver.isMissing piece = false) ∧
          resolver.isMissing (.placeholder found) = true ∧
          format identifiers source resolver =
            .error (.format (.noValue (String.ofList found.body)))) ∧
      ((∀ piece ∈ pieces, piece.isBalanced = true) →
        (∀ piece ∈ pieces, resolver.isMissing piece = false) →
        format identifiers source resolver =
          .ok (String.ofList (pieces.flatMap resolver.shownPiece))) := by
  refine ⟨pieces source.toList, fun _ => cut_iff, format_of_unbalanced identifiers,
    format_of_isMissing identifiers, fun balanced complete => ?_⟩
  have read := read_of_isBalanced balanced
  rw [format, read]
  exact render_of_complete complete (standOut _ read)

def Identifiers.dotted : Identifiers where
  text index := String.ofList ('<' :: (List.replicate index '.' ++ ['>']))
  nonempty index equal := by
    have chars := congrArg String.toList equal
    rw [String.toList_ofList] at chars
    cases chars

theorem format_eq_pass_braces :
    let source := "\x7bA\x7d \x7b\x7bA\x7d\x7d \x7b\x7b\x7bA:n\x7d\x7d\x7d"
    let resolver : Resolver := ⟨fun _ => some "\x7b\x7bA\x7d\x7d", fun _ => some "<.>"⟩
    (∀ template, Template.read source = .ok template →
      template.IdentifiersStandOut Identifiers.dotted resolver) ∧
    format Identifiers.dotted source resolver = .ok "\x7b\x7bA\x7d\x7d \x7bA\x7d \x7b<.>\x7d" := by
  intro source resolver
  have standOut : ∀ template, Template.read source = .ok template →
      template.IdentifiersStandOut Identifiers.dotted resolver := by
    intro template read
    have parts : Template.read source =
        .ok (Template.mk ((pieces source.toList).map Piece.toPart)) :=
      read_of_isBalanced (by decide +kernel)
    cases read.symm.trans parts
    decide +kernel
  rcases format_eq_pass Identifiers.dotted source resolver standOut with
    ⟨cut, isCut, _, _, complete⟩
  cases (isCut (pieces source.toList)).mp (cut_pieces _)
  have shown : (pieces source.toList).flatMap resolver.shownPiece =
      "\x7b\x7bA\x7d\x7d \x7bA\x7d \x7b<.>\x7d".toList := by
    decide +kernel
  refine ⟨standOut, ?_⟩
  rw [complete (by decide +kernel) (by decide +kernel), shown, String.ofList_toList]

end Proviso.Message
