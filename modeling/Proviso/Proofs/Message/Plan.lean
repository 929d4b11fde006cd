import Proviso.Proofs.Message.Format

/-!
The plan by which the placeholders of a template give way. There is one item for all placeholders
that say the same between their braces and are escaped alike, in the order in which these first
occur; the template is the source with every placeholder replaced, in its own place, by what stands
for its item.
-/

namespace Proviso.Message

open Text (byteLength)

/-! ## Keys -/

/-- What the items of a template are told apart by: the text between the braces, and whether it is
escaped. -/
def Item.key (item : Item) : String × Bool :=
  (item.body, item.isEscaped)

namespace Placeholder

def key (placeholder : Placeholder) : String × Bool :=
  (String.ofList placeholder.body, !placeholder.isLive)

theorem isEscaped_ofPlaceholder (found : Placeholder) :
    (Item.ofPlaceholder found).isEscaped = !found.isLive := by
  rcases Nat.mod_two_eq_zero_or_one found.opening with even | odd
  · simp [Item.ofPlaceholder, isLive, even]
  · simp [Item.ofPlaceholder, isLive, odd]

theorem key_ofPlaceholder (found : Placeholder) : (Item.ofPlaceholder found).key = found.key := by
  rw [Item.key, Item.body_ofPlaceholder, isEscaped_ofPlaceholder, key]

theorem path_eq_of_body_eq {first second : Placeholder} (firstPath : IsPathText first.path)
    (secondPath : IsPathText second.path) (same : first.body = second.body) :
    first.path = second.path ∧ first.isLabel = second.isLabel := by
  have stops (isLabel : Bool) :
      ∀ char ∈ (if isLabel then labelMark else []).head?, isPathChar char = false := by
    intro char isHead
    cases isLabel with
    | false => cases isHead
    | true =>
      cases isHead
      rfl
  -- There is no colon in a path, so it ends where the mark of a label begins.
  have firstParts := takeWhile_isPathChar_append (isPathText_iff.mp firstPath).1
    (stops first.isLabel)
  have secondParts := takeWhile_isPathChar_append (isPathText_iff.mp secondPath).1
    (stops second.isLabel)
  rw [body, body] at same
  rw [same] at firstParts
  refine ⟨firstParts.1.symm.trans secondParts.1, ?_⟩
  have sameLabel := firstParts.2.symm.trans secondParts.2
  cases isFirst : first.isLabel <;> cases isSecond : second.isLabel <;>
    simp [isFirst, isSecond, labelMark] at sameLabel ⊢

theorem ofPlaceholder_eq_of_key_eq {first second : Placeholder} (firstProper : first.Proper)
    (secondProper : second.Proper) (same : first.key = second.key) :
    Item.ofPlaceholder first = Item.ofPlaceholder second := by
  have sameItem : (Item.ofPlaceholder first).key = (Item.ofPlaceholder second).key := by
    rw [key_ofPlaceholder, key_ofPlaceholder, same]
  rw [key, key, Prod.mk.injEq, String.ofList_inj] at same
  rcases path_eq_of_body_eq firstProper.path secondProper.path same.1 with ⟨path, label⟩
  have escaped := (Prod.mk.inj sameItem).2
  rw [Item.ofPlaceholder, Item.ofPlaceholder] at escaped ⊢
  rw [Item.mk.injEq]
  exact ⟨congrArg String.ofList path, label, escaped⟩

end Placeholder

def placeholders (pieces : List Piece) : List Placeholder :=
  pieces.filterMap fun
    | .char _ => none
    | .placeholder found => some found

theorem mem_placeholders {pieces : List Piece} {found : Placeholder} :
    found ∈ placeholders pieces ↔ .placeholder found ∈ pieces := by
  rw [placeholders, List.mem_filterMap]
  constructor
  · rintro ⟨piece, member, isFound⟩
    cases piece with
    | char value => cases isFound
    | placeholder other =>
      cases isFound
      exact member
  · intro member
    exact ⟨_, member, rfl⟩

theorem Cut.proper {text : List Char} {cut : List Piece} (isCut : Cut text cut) :
    ∀ found ∈ placeholders cut, found.Proper := by
  induction isCut with
  | nil => exact List.forall_mem_nil _
  | placeholder begins _ induction => exact List.forall_mem_cons.mpr ⟨begins.proper, induction⟩
  | char _ _ induction => exact induction

/-! ## Items -/

namespace Template

theorem addItem_eraseDups (occurred : List Item) (part : Part) :
    addItem occurred.eraseDups part = (occurred ++ (item? part).toList).eraseDups := by
  rw [addItem_eq, List.eraseDups_append]
  cases item? part with
  | none => simp [List.removeAll]
  | some item =>
    by_cases known : item ∈ occurred <;>
      simp [List.mem_eraseDups, List.removeAll, List.eraseDups_cons, known]

theorem foldl_addItem_eraseDups (occurred : List Item) (parts : List Part) :
    parts.foldl addItem occurred.eraseDups = (occurred ++ parts.filterMap item?).eraseDups := by
  induction parts generalizing occurred with
  | nil => rw [List.foldl_nil, List.filterMap_nil, List.append_nil]
  | cons part rest induction =>
    rw [List.foldl_cons, addItem_eraseDups, induction, List.append_assoc]
    cases occurs : item? part with
    | none => rw [List.filterMap_cons_none occurs]; rfl
    | some item => rw [List.filterMap_cons_some occurs]; rfl

theorem items_eq_eraseDups (template : Template) :
    template.items = (template.parts.filterMap item?).eraseDups :=
  foldl_addItem_eraseDups [] template.parts

end Template

theorem map_eraseDups {α β : Type} [BEq α] [LawfulBEq α] [BEq β] [LawfulBEq β] {image : α → β}
    {entries : List α}
    (injective : ∀ first ∈ entries, ∀ second ∈ entries, image first = image second →
      first = second) : entries.eraseDups.map image = (entries.map image).eraseDups := by
  induction length : entries.length using Nat.strongRecOn generalizing entries with
  | ind count induction =>
    cases entries with
    | nil => rfl
    | cons first rest =>
      have others : (rest.map image).filter (!· == image first) =
          (rest.filter (!· == first)).map image := by
        rw [List.filter_map]
        refine congrArg (List.map image) (List.filter_congr fun other member => ?_)
        have same : image other = image first ↔ other = first :=
          ⟨injective other (List.mem_cons_of_mem _ member) first (List.mem_cons_self ..),
            congrArg image⟩
        rw [Bool.eq_iff_iff]
        simp [same]
      have fewer : (rest.filter (!· == first)).length < count := by
        rw [← length]
        exact Nat.lt_succ_of_le (List.length_filter_le ..)
      have among {other : α} (member : other ∈ rest.filter (!· == first)) :
          other ∈ first :: rest :=
        List.mem_cons_of_mem _ (List.mem_filter.mp member).1
      rw [List.eraseDups_cons, List.map_cons, List.map_cons, List.eraseDups_cons, others,
        induction _ fewer
          (fun one isOne other isOther => injective one (among isOne) other (among isOther)) rfl]

/-! ## Plans -/

namespace Template

def itemOf? (template : Template) (found : Placeholder) : Option Item :=
  template.items.find? (·.key == found.key)

/-- A piece as it stands in a template: a placeholder gives way to half of its braces around what
stands for its item. -/
def planned (template : Template) (identifiers : Identifiers) : Piece → List Char
  | .char value => [value]
  | .placeholder found =>
    match template.itemOf? found with
    | some item =>
      List.replicate (found.opening / 2) '\x7b' ++
        (item.substitution (template.identifier identifiers item)).toList ++
          List.replicate (found.opening / 2) '\x7d'
    | none => []

/-- That a template is a faithful plan of what is put in for the placeholders among some pieces. No
two items have one key, and the keys are those of the placeholders, in the order in which these
first occur. So every placeholder has one item, which says what is written in it, and every item is
that of a placeholder. The text of an escaped item stands for it, and for another one an identifier;
and the text of the template is made of the pieces, each in its place. -/
structure Plans (template : Template) (pieces : List Piece) : Prop where
  distinct : template.items.Pairwise fun first second => first.key ≠ second.key
  keys : template.items.map Item.key = ((placeholders pieces).map Placeholder.key).eraseDups
  covers : ∀ found ∈ placeholders pieces, ∃ item, template.itemOf? found = some item ∧
    (item.body = String.ofList found.body ∧ item.path = String.ofList found.path ∧
      item.isLabel = found.isLabel ∧ item.isEscaped = !found.isLive) ∧
      ∀ other ∈ template.items, other.key = found.key → other = item
  occurs : ∀ item ∈ template.items,
    ∃ found ∈ placeholders pieces, template.itemOf? found = some item
  substitutes : ∀ (identifiers : Identifiers) (index : Nat) (item : Item),
    template.items[index]? = some item →
      item.substitution (template.identifier identifiers item) =
        if item.isEscaped then item.body else identifiers.text index
  writes : ∀ identifiers : Identifiers,
    template.text identifiers = String.ofList (pieces.flatMap (template.planned identifiers))

/-- How a template is read of the pieces into which its source is cut. It is a plan of them, unless
there is a placeholder with unequal runs of braces; of these the first is reported with its
place. -/
structure ReadsPlan (source : String) (pieces : List Piece) : Prop where
  cut : ∀ cut, Cut source.toList cut ↔ cut = pieces
  written : pieces.flatMap Piece.written = source.toList
  accepts : ∀ template, read source = .ok template → template.Plans pieces
  refuses : (∃ fault, read source = .error fault) ↔
    ∃ found ∈ placeholders pieces, found.opening ≠ found.closing
  reports : ∀ fault, read source = .error fault →
    ∃ before found after, pieces = before ++ .placeholder found :: after ∧
      (∀ earlier ∈ placeholders before, earlier.opening = earlier.closing) ∧
      found.opening ≠ found.closing ∧
      fault = .format (.unbalanced (String.ofList found.written)
        (byteLength (before.flatMap Piece.written)) found.opening found.closing)

variable {pieces : List Piece}

theorem items_map_toPart (pieces : List Piece) :
    (mk (pieces.map Piece.toPart)).items =
      ((placeholders pieces).map Item.ofPlaceholder).eraseDups := by
  rw [items_eq_eraseDups, placeholders, List.filterMap_map, List.map_filterMap]
  congr 2
  funext piece
  cases piece <;> rfl

theorem mem_items_map_toPart {item : Item} :
    item ∈ (mk (pieces.map Piece.toPart)).items ↔
      ∃ found ∈ placeholders pieces, Item.ofPlaceholder found = item := by
  rw [items_map_toPart, List.mem_eraseDups, List.mem_map]

section Proper

variable (proper : ∀ found ∈ placeholders pieces, found.Proper)

include proper

theorem eq_ofPlaceholder_of_key_eq {item : Item} {found : Placeholder}
    (isItem : item ∈ (mk (pieces.map Piece.toPart)).items) (member : found ∈ placeholders pieces)
    (same : item.key = found.key) : item = Item.ofPlaceholder found := by
  rcases mem_items_map_toPart.mp isItem with ⟨other, isOther, rfl⟩
  rw [Placeholder.key_ofPlaceholder] at same
  exact Placeholder.ofPlaceholder_eq_of_key_eq (proper other isOther) (proper found member) same

theorem itemOf?_map_toPart {found : Placeholder} (member : found ∈ placeholders pieces) :
    (mk (pieces.map Piece.toPart)).itemOf? found = some (Item.ofPlaceholder found) := by
  have isItem := mem_items_map_toPart.mpr ⟨found, member, rfl⟩
  cases search : (mk (pieces.map Piece.toPart)).itemOf? found with
  | none =>
    have differs := List.find?_eq_none.mp search _ isItem
    exact absurd (beq_iff_eq.mpr (Placeholder.key_ofPlaceholder found)) differs
  | some item =>
    have isKey := List.find?_some search
    rw [beq_iff_eq] at isKey
    rw [eq_ofPlaceholder_of_key_eq proper (List.mem_of_find?_eq_some search) member isKey]

theorem keys_map_toPart : (mk (pieces.map Piece.toPart)).items.map Item.key =
    ((placeholders pieces).map Placeholder.key).eraseDups := by
  have keys : (placeholders pieces).map Placeholder.key =
      ((placeholders pieces).map Item.ofPlaceholder).map Item.key := by
    rw [List.map_map]
    exact List.map_congr_left fun found _ => (Placeholder.key_ofPlaceholder found).symm
  rw [items_map_toPart, keys]
  refine map_eraseDups fun first isFirst second isSecond same => ?_
  rcases List.mem_map.mp isSecond with ⟨found, member, rfl⟩
  rw [Placeholder.key_ofPlaceholder] at same
  have isItem : first ∈ (mk (pieces.map Piece.toPart)).items := by
    rwa [items_map_toPart, List.mem_eraseDups]
  exact eq_ofPlaceholder_of_key_eq proper isItem member same

theorem text_map_toPart (identifiers : Identifiers) :
    (mk (pieces.map Piece.toPart)).text identifiers =
      String.ofList (pieces.flatMap ((mk (pieces.map Piece.toPart)).planned identifiers)) := by
  rw [text, chars, List.flatMap_map, List.flatMap_def, List.flatMap_def]
  refine congrArg (fun parts => String.ofList parts.flatten) (List.map_congr_left ?_)
  intro piece member
  cases piece with
  | char value => rfl
  | placeholder found =>
    rw [planned, itemOf?_map_toPart proper (mem_placeholders.mpr member), Piece.toPart, partText,
      remainingBraces_eq]

theorem plans_map_toPart : (mk (pieces.map Piece.toPart)).Plans pieces := by
  have distinct : (mk (pieces.map Piece.toPart)).items.Nodup := nodup_foldl_addItem List.nodup_nil _
  constructor
  case distinct =>
    refine distinct.imp_of_mem fun isFirst isSecond different same => different ?_
    rcases mem_items_map_toPart.mp isSecond with ⟨found, member, rfl⟩
    rw [Placeholder.key_ofPlaceholder] at same
    exact eq_ofPlaceholder_of_key_eq proper isFirst member same
  case keys => exact keys_map_toPart proper
  case covers =>
    intro found member
    exact ⟨_, itemOf?_map_toPart proper member,
      ⟨Item.body_ofPlaceholder found, rfl, rfl, found.isEscaped_ofPlaceholder⟩,
      fun other isItem same => eq_ofPlaceholder_of_key_eq proper isItem member same⟩
  case occurs =>
    intro item isItem
    rcases mem_items_map_toPart.mp isItem with ⟨found, member, rfl⟩
    exact ⟨found, member, itemOf?_map_toPart proper member⟩
  case substitutes =>
    intro identifiers index item isItem
    rcases List.getElem?_eq_some_iff.mp isItem with ⟨within, rfl⟩
    rw [Item.substitution, identifier, distinct.idxOf_getElem]
  case writes => exact text_map_toPart proper

end Proper

theorem isBalanced_iff {pieces : List Piece} :
    (∀ piece ∈ pieces, piece.isBalanced = true) ↔
      ∀ found ∈ placeholders pieces, found.opening = found.closing := by
  constructor
  · intro balanced found member
    exact beq_iff_eq.mp (balanced _ (mem_placeholders.mp member))
  · intro equal piece member
    cases piece with
    | char value => rfl
    | placeholder found => exact beq_iff_eq.mpr (equal found (mem_placeholders.mpr member))

theorem readsPlan (source : String) : ReadsPlan source (Message.pieces source.toList) := by
  by_cases unbalanced : ∃ piece ∈ Message.pieces source.toList, piece.isBalanced = false
  · rcases read_of_unbalanced unbalanced with
      ⟨before, found, after, split, balanced, differs, fails⟩
    constructor
    case cut => exact fun _ => cut_iff
    case written => exact flatMap_written_pieces source.toList
    case accepts =>
      intro template accepted
      cases fails.symm.trans accepted
    case refuses =>
      have member : found ∈ placeholders (Message.pieces source.toList) := by
        rw [mem_placeholders, split]
        exact List.mem_append_right _ (List.mem_cons_self ..)
      exact iff_of_true ⟨_, fails⟩ ⟨found, member, differs⟩
    case reports =>
      intro fault refused
      cases fails.symm.trans refused
      exact ⟨before, found, after, split, isBalanced_iff.mp balanced, differs, rfl⟩
  · have balanced : ∀ piece ∈ Message.pieces source.toList, piece.isBalanced = true := by
      intro piece member
      cases isBalanced : piece.isBalanced with
      | true => rfl
      | false => exact absurd ⟨piece, member, isBalanced⟩ unbalanced
    have reads := read_of_isBalanced balanced
    constructor
    case cut => exact fun _ => cut_iff
    case written => exact flatMap_written_pieces source.toList
    case accepts =>
      intro template accepted
      cases reads.symm.trans accepted
      exact plans_map_toPart (cut_pieces source.toList).proper
    case refuses =>
      refine iff_of_false ?_ ?_
      · rintro ⟨fault, refused⟩
        cases reads.symm.trans refused
      · rintro ⟨found, member, differs⟩
        exact differs (isBalanced_iff.mp balanced found member)
    case reports =>
      intro fault refused
      cases reads.symm.trans refused

/-- The same name is live, escaped and a label, and live again in more braces. -/
theorem readsPlan_repeated :
    let source := "\x7bA\x7d\x7b\x7bA\x7d\x7d\x7bA:n\x7d \x7b\x7b\x7bA\x7d\x7d\x7d"
    ∃ template, read source = .ok template ∧
      template.items.map Item.key = [("A", false), ("A", true), ("A:n", false)] ∧
      template.text Identifiers.dotted = "<>\x7bA\x7d<..> \x7b<>\x7d" ∧
      template.Plans (Message.pieces source.toList) := by
  intro source
  have accepts : (read source).toOption.any (fun template => decide
      (template.items.map Item.key = [("A", false), ("A", true), ("A:n", false)] ∧
        template.text Identifiers.dotted = "<>\x7bA\x7d<..> \x7b<>\x7d")) = true := by
    decide +kernel
  rcases Outcome.exists_eq_ok_of_any accepts with ⟨template, accepted, holds⟩
  have holds := of_decide_eq_true holds
  exact ⟨template, accepted, holds.1, holds.2, (readsPlan source).accepts template accepted⟩

end Template

end Proviso.Message
