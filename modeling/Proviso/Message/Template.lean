import Proviso.Fault.Basic
import Proviso.Message.Placeholder
import Proviso.Schema.Path
import Proviso.Text.Replace
import Proviso.Value.Basic

/-!
Message templates. A placeholder in an odd number of braces on either side is live: it stands
for a value or a name, and half of the other braces remain around it. In an even number of
braces it is escaped: its own text stays, with half of the braces.

A template is written with an opaque identifier in the place of each live item. When values are
put in, the identifiers are looked up one after the other and replaced; the texts that are put in
are not read as placeholders again.
-/

namespace Proviso.Message

open Text (byteLength)

/-- What is put in for placeholders that are written alike. -/
structure Item where
  path : String
  isLabel : Bool
  isEscaped : Bool
  deriving DecidableEq

namespace Item

def ofPlaceholder (placeholder : Placeholder) : Item :=
  ⟨String.ofList placeholder.path, placeholder.isLabel, placeholder.opening % 2 = 0⟩

def body (item : Item) : String :=
  item.path ++ if item.isLabel then ":n" else ""

/-- The text that stands for the item in a template: its own text if it is escaped, and its
identifier otherwise. -/
def substitution (item : Item) (identifier : String) : String :=
  if item.isEscaped then item.body else identifier

end Item

/-- A character, or an item with the number of braces that remain on either side. -/
inductive Part where
  | char (value : Char)
  | item (value : Item) (braces : Nat)
  deriving DecidableEq

structure Template where
  parts : List Part

namespace Template

/-! ## Reading -/

def remainingBraces (opening : Nat) : Nat :=
  if opening % 2 = 0 then opening / 2 else (opening - 1) / 2

def partsFrom (position : Nat) : List Piece → Except Fault (List Part)
  | [] => .ok []
  | .char value :: rest =>
    (partsFrom (position + value.utf8Size) rest).map (.char value :: ·)
  | .placeholder found :: rest =>
    if found.opening = found.closing then
      let part := .item (Item.ofPlaceholder found) (remainingBraces found.opening)
      (partsFrom (position + byteLength found.written) rest).map (part :: ·)
    else
      .error (.format (.unbalanced (String.ofList found.written) position found.opening found.closing))

/-- Fails at the first placeholder whose runs of braces differ in length. -/
def read (source : String) : Except Fault Template :=
  (partsFrom 0 (pieces source.toList)).map Template.mk

/-! ## Items -/

def addItem (items : List Item) : Part → List Item
  | .char _ => items
  | .item value _ => if items.contains value then items else items ++ [value]

def items (template : Template) : List Item :=
  template.parts.foldl addItem []

def liveItems (template : Template) : List Item :=
  template.items.filter (!·.isEscaped)

/-! ## Writing -/

def partText (substitute : Item → String) : Part → List Char
  | .char value => [value]
  | .item value braces =>
    List.replicate braces '\x7b' ++ (substitute value).toList ++ List.replicate braces '\x7d'

def chars (template : Template) (substitute : Item → String) : List Char :=
  template.parts.flatMap (partText substitute)

end Template

structure Identifiers where
  text : Nat → String
  nonempty (index : Nat) : text index ≠ ""

namespace Template

/-- The identifier of an item: items take them in the order in which they first occur. -/
def identifier (template : Template) (identifiers : Identifiers) (item : Item) : String :=
  identifiers.text (template.items.idxOf item)

def text (template : Template) (identifiers : Identifiers) : String :=
  String.ofList (template.chars fun item =>
    item.substitution (template.identifier identifiers item))

end Template

/-! ## Putting values in -/

structure Resolver where
  value? : String → Option String
  label? : String → Option String

namespace Resolver

/-- Fields of a record; a label is the name that the type shows for a field. -/
def ofRecord (record : Record) : Resolver where
  value? path := (record.at? (Text.segments path)).map (·.text)
  label? path := (record.type.fieldAt? (Text.segments path)).map (·.displayName)

/-- The text of a live item. A field without a label is named by its path. -/
def itemText (resolver : Resolver) (item : Item) : Except Fault String :=
  if item.isLabel then .ok ((resolver.label? item.path).getD item.path)
  else
    match resolver.value? item.path with
    | some value => .ok value
    | none => .error (.format (.noValue item.body))

/-- Replaces the identifiers of items by their texts, one item after the other. Fails at the first
item that has no text. -/
def replaceItems (resolver : Resolver) (identifier : Item → String) :
    List Item → List Char → Except Fault (List Char)
  | [], output => .ok output
  | item :: rest, output => do
    let text ← resolver.itemText item
    resolver.replaceItems identifier rest
      (Text.replace (identifier item).toList text.toList output)

end Resolver

namespace Template

def render (template : Template) (identifiers : Identifiers) (resolver : Resolver) :
    Except Fault String :=
  (resolver.replaceItems (template.identifier identifiers) template.liveItems
    (template.text identifiers).toList).map String.ofList

end Template

def format (identifiers : Identifiers) (source : String) (resolver : Resolver) :
    Except Fault String := do
  let template ← Template.read source
  template.render identifiers resolver

end Proviso.Message
