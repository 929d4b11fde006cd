import Proviso.Pattern.Basic
import Proviso.Text.ByteRange

/-!
The room that the automata of a pattern take. There are two of them, one reads the bytes of a text
from its start and one from its end. Each state takes 32 bytes; what it lists comes on top, 8 bytes
for every range of bytes that it takes and 4 bytes for every way that it branches. A pattern is
refused if one of its automata outgrows the limit.
-/

namespace Proviso

open Text (ByteRange CodeRanges)

structure Footprint where
  states : Nat
  listed : Nat

inductive Direction where
  | forward
  | backward

namespace Footprint

def limit : Nat := 10 * 2 ^ 20

def size (footprint : Footprint) : Nat :=
  32 * footprint.states + footprint.listed

def fits (footprint : Footprint) : Bool :=
  footprint.size ≤ limit

def state (footprint : Footprint) : Footprint :=
  ⟨footprint.states + 1, footprint.listed⟩

def list (footprint : Footprint) (bytes : Nat) : Footprint :=
  ⟨footprint.states, footprint.listed + bytes⟩

/-- The same part a number of times. What does not fit any more need not grow further. -/
def times (part : Footprint → Footprint) : Nat → Footprint → Footprint
  | 0, footprint => footprint
  | count + 1, footprint => if footprint.fits then times part count (part footprint) else footprint

end Footprint

/-! ## States used again -/

/-- A table that remembers states by what they do. Of those that fall on one place, it remembers
the last. -/
structure Register where
  places : Array (List Nat × Nat)

namespace Register

def ofSize (size : Nat) : Register :=
  ⟨Array.replicate size ([], 0)⟩

def place (register : Register) (key : List Nat) : Nat :=
  let mix (hash : UInt64) (number : Nat) := (hash ^^^ number.toUInt64) * 0x100000001B3
  (key.foldl mix 0xCBF29CE484222325).toNat % register.places.size

def find? (register : Register) (key : List Nat) : Option Nat :=
  match register.places[register.place key]? with
  | some (other, state) => if other = key then some state else none
  | none => none

def insert (register : Register) (key : List Nat) (state : Nat) : Register :=
  ⟨register.places.setIfInBounds (register.place key) (key, state)⟩

end Register

structure Sharing where
  footprint : Footprint
  register : Register

namespace Sharing

/-- The state that does what the key says; a new one lists a number of bytes. -/
def reuse (sharing : Sharing) (key : List Nat) (listed : Nat) : Nat × Sharing :=
  match sharing.register.find? key with
  | some state => (state, sharing)
  | none =>
    let state := sharing.footprint.states
    (state, ⟨sharing.footprint.state.list listed, sharing.register.insert key state⟩)

/-! ## Classes from the start -/

/-- The states that take one of several sequences, given in order, and lead to a target: one state
for all that start alike. -/
def forward (target : Nat) : Nat → List (List ByteRange) → Sharing → Nat × Sharing
  | 0, _, sharing => (target, sharing)
  | depth + 1, sequences, sharing =>
    let step (found : List Nat × Sharing) (group : List (List ByteRange)) : List Nat × Sharing :=
      match group.head? with
      | some (range :: _) =>
        let (next, sharing) := forward target depth (group.map List.tail) found.2
        (found.1 ++ [range.first, range.last, next], sharing)
      | _ => found
    let groups := sequences.splitBy fun first second => first.head? == second.head?
    let (steps, sharing) := groups.foldl step ([], sharing)
    if steps.isEmpty then (target, sharing) else sharing.reuse steps (8 * groups.length)

/-! ## Classes from the end -/

/-- The states that take a sequence from its end, each of which takes one range. -/
def backward (target : Nat) (sharing : Sharing) (sequence : List ByteRange) : Sharing :=
  let step (found : Nat × Sharing) (range : ByteRange) : Nat × Sharing :=
    found.2.reuse [found.1, range.first, range.last] 0
  let (_, sharing) := sequence.foldl step (target, sharing)
  { sharing with footprint := sharing.footprint.list 4 }

end Sharing

namespace Footprint

def addClass (direction : Direction) (codes : CodeRanges) (footprint : Footprint) : Footprint :=
  let sequences := codes.flatMap fun (first, last) => ByteRange.sequences first last
  if sequences.all fun sequence => sequence.length == 1 then
    footprint.state.state.list (8 * codes.length)
  else
    match direction with
    | .forward =>
      let sharing : Sharing := ⟨footprint.state, .ofSize 10000⟩
      (sharing.forward footprint.states 5 sequences).2.footprint
    | .backward =>
      let target := footprint.state
      let sharing : Sharing := ⟨target.state, .ofSize 1000⟩
      (sequences.foldl (Sharing.backward target.states) sharing).footprint

/-! ## Texts -/

/-- The texts up to each empty one. An empty one at the start counts once. -/
def stretches : List (List Nat) → List (List (List Nat))
  | [] => [[]]
  | [] :: rest =>
    match stretches rest with
    | [] :: others => [] :: others
    | others => [] :: others
  | text :: rest => go [text] rest
where
  go (stretch : List (List Nat)) : List (List Nat) → List (List (List Nat))
    | [] => [stretch]
    | [] :: rest => stretch :: go [] rest
    | text :: rest => go (stretch ++ [text]) rest

/-- The states that tell texts apart byte by byte. A text that ends where others go on parts those
before it from those behind it. -/
def addTexts : Nat → List (List Nat) → Footprint → Footprint
  | 0, _, footprint => footprint
  | fuel + 1, texts, footprint =>
    let stretches := stretches texts
    let step (footprint : Footprint) (stretch : List (List Nat)) : Footprint :=
      let leads := (stretch.filterMap List.head?).eraseDups
      let footprint := leads.foldl (fun footprint lead =>
        let rests := (stretch.filter (·.head? == some lead)).map List.tail
        if rests.all List.isEmpty then footprint else addTexts fuel rests footprint) footprint
      match leads.length with
      | 0 => footprint
      | 1 => footprint.state.list 4
      | count => footprint.state.list (8 * count + 4)
    (stretches.foldl step footprint).state.list (4 * (stretches.length - 1))

/-! ## Patterns -/

/-- An alternative of a pattern: what it adds, and its bytes if it is a given text. -/
structure Alternative where
  text? : Option (List Nat)
  add : Footprint → Footprint

/-- Alternatives side by side: the choice between them has a state in front of them and one behind
them. Given texts share the states for what they start with. -/
def together (alternatives : List Alternative) : Alternative :=
  match alternatives with
  | [] => ⟨none, state⟩
  | [only] => only
  | first :: second :: rest =>
    match alternatives.mapM (·.text?) with
    | some texts => ⟨none, fun footprint =>
      addTexts ((texts.map List.length).foldl max 0 + 1) texts footprint.state⟩
    | none => ⟨none, fun footprint =>
      let ends := (second.add (first.add footprint)).state.state
      (rest.foldl (fun footprint next => next.add footprint) ends).list (4 * (rest.length + 2))⟩

def sequence (direction : Direction) (first second : Alternative) : Alternative :=
  let (front, back) :=
    match direction with
    | .forward => (first, second)
    | .backward => (second, first)
  ⟨front.text?.bind fun text => back.text?.map (text ++ ·), fun footprint =>
    back.add (front.add footprint)⟩

/-- A repetition. One without an upper limit has two branches if its body can take nothing, or if
the body has no shortest match because it cannot match. -/
def repetition (body : Footprint → Footprint) (twoBranches : Bool) (least : Nat)
    (most : Option Nat) (footprint : Footprint) : Footprint :=
  match least, most with
  | 0, some 1 => (body footprint.state).state.list 8
  | least, some most =>
    let taken := if least = 0 then footprint.state else times body least footprint
    if least < most then
      times (fun footprint => (body footprint.state).list 8) (most - least) taken.state
    else taken
  | 0, none =>
    if twoBranches then (body footprint).state.state.state.list 16
    else (body footprint.state).list 8
  | least, none => (times body least footprint).state.list 8

def hasVoid : Pattern → Bool
  | .empty | .assertion _ => false
  | .oneOf set => set.codes.isEmpty
  | .sequence first second | .choice first second => hasVoid first || hasVoid second
  | .group body | .repeated body _ _ _ => hasVoid body

def alternatives (direction : Direction) : Pattern → List Alternative
  | .empty | .assertion _ => [⟨none, state⟩]
  | .oneOf set =>
    match set.single? with
    | some code =>
      let bytes := Text.bytesOf code
      let text :=
        match direction with
        | .forward => bytes
        | .backward => bytes.reverse
      [⟨some text, times state bytes.length⟩]
    | none => [⟨none, addClass direction set.codes⟩]
  | .sequence first second =>
    [sequence direction (together (alternatives direction first))
      (together (alternatives direction second))]
  | .choice first second => alternatives direction first ++ alternatives direction second
  | .group body =>
    let inner := (together (alternatives direction body)).add
    match direction with
    | .forward => [⟨none, fun footprint => (inner footprint.state).state⟩]
    | .backward => [⟨none, inner⟩]
  | .repeated body least most _ =>
    let inner := (together (alternatives direction body)).add
    [⟨none, repetition inner (body.canBeEmpty || hasVoid body) least most⟩]

def isBoundToEnd : Pattern → Bool
  | .assertion .textEnd => true
  | .sequence first second => isBoundToEnd second || second.isZeroWidth && isBoundToEnd first
  | .choice first second => isBoundToEnd first && isBoundToEnd second
  | .group body => isBoundToEnd body
  | .repeated body least _ _ => least != 0 && isBoundToEnd body
  | _ => false

/-- The footprint of the automaton of a pattern. One that is not bound to the end where it starts
has a loop over all bytes in front. -/
def ofPattern (direction : Direction) (pattern : Pattern) : Footprint :=
  let start (isBound : Bool) : Footprint := if isBound then ⟨1, 0⟩ else ⟨3, 16⟩
  let body := (together (alternatives direction pattern)).add
  match direction with
  | .forward => (body (start pattern.isAnchored).state).state.state
  | .backward => (body (start (isBoundToEnd pattern))).state

end Footprint

namespace Pattern

/-- A measure of the room for a pattern: no automaton takes more than 3000 bytes for each unit. -/
def room : Pattern → Nat
  | .empty | .assertion _ => 1
  | .oneOf set => set.codes.length + 1
  | .sequence first second => first.room + second.room
  | .choice first second => first.room + second.room + 1
  | .group body => body.room + 1
  | .repeated body least (some most) _ => body.room * max least most + 1
  | .repeated body least none _ => body.room * max least 1 + 1

def fits (pattern : Pattern) : Bool :=
  3000 * (pattern.room + 1) ≤ Footprint.limit ||
    (Footprint.ofPattern .forward pattern).fits && (Footprint.ofPattern .backward pattern).fits

end Pattern

end Proviso
