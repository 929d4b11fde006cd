import Proviso.Pattern.Assertion

/-!
Patterns over text. The constructions `concat`, `alternation` and `repeat` build them in a
simple form: sequences and choices have no sequences and choices inside, what every alternative
starts with stands in front of them once, and what takes no text is not repeated. Which of
several matches a pattern prefers is told from this form.
-/

namespace Proviso

inductive Pattern where
  | empty
  | oneOf (set : CharClass)
  | assertion (condition : Assertion)
  | sequence (first second : Pattern)
  | choice (first second : Pattern)
  | group (body : Pattern)
  | repeated (body : Pattern) (least : Nat) (most : Option Nat) (greedy : Bool)

namespace Pattern

def canBeEmpty : Pattern → Bool
  | .empty | .assertion _ => true
  | .oneOf _ => false
  | .sequence first second => first.canBeEmpty && second.canBeEmpty
  | .choice first second => first.canBeEmpty || second.canBeEmpty
  | .group body => body.canBeEmpty
  | .repeated body least _ _ => least == 0 || body.canBeEmpty

def isZeroWidth : Pattern → Bool
  | .empty | .assertion _ => true
  | .oneOf _ => false
  | .sequence first second | .choice first second => first.isZeroWidth && second.isZeroWidth
  | .group body => body.isZeroWidth
  | .repeated body _ most _ => most == some 0 || body.isZeroWidth

def isAnchored : Pattern → Bool
  | .assertion .textStart => true
  | .sequence first second => first.isAnchored || first.isZeroWidth && second.isAnchored
  | .choice first second => first.isAnchored && second.isAnchored
  | .group body => body.isAnchored
  | .repeated body least _ _ => least != 0 && body.isAnchored
  | _ => false

/-- Whether two patterns are written alike. A group is like no other: each stands for what it
takes itself. -/
def same : Pattern → Pattern → Bool
  | .empty, .empty => true
  | .oneOf set, .oneOf other => set == other
  | .assertion condition, .assertion other => condition == other
  | .sequence first second, .sequence other another => first.same other && second.same another
  | .choice first second, .choice other another => first.same other && second.same another
  | .repeated body least most greedy, .repeated other fewest atMost eager =>
    least == fewest && most == atMost && greedy == eager && body.same other
  | _, _ => false

/-! ## Characters -/

def ofClass (set : CharClass) : Pattern :=
  .oneOf set.plain

def isSingle : Pattern → Bool
  | .oneOf set => set.single?.isSome
  | _ => false

/-- A pattern that takes one of several characters, or of none. -/
def isClass : Pattern → Bool
  | .oneOf set => set.single?.isNone
  | _ => false

/-! ## Sequences -/

def parts : Pattern → List Pattern
  | .empty => []
  | .sequence first second => first.parts ++ second.parts
  | pattern => [pattern]

def ofParts : List Pattern → Pattern
  | [] => .empty
  | [pattern] => pattern
  | pattern :: rest => .sequence pattern (ofParts rest)

def concat (patterns : List Pattern) : Pattern :=
  ofParts (patterns.flatMap parts)

/-! ## Choices -/

def branches : Pattern → List Pattern
  | .choice first second => first.branches ++ second.branches
  | pattern => [pattern]

def ofBranches : List Pattern → Pattern
  | [] => .empty
  | [pattern] => pattern
  | pattern :: rest => .choice pattern (ofBranches rest)

/-- The class of what the alternatives take, if each of them takes a given character or each of
them one of several. -/
def joinClasses? (patterns : List Pattern) : Option CharClass :=
  if patterns.all isSingle || patterns.all isClass then
    some (patterns.foldr join .none)
  else none
where
  join : Pattern → CharClass → CharClass
    | .oneOf set, others => .union set others
    | _, others => others

/-- The parts of a pattern. Given characters side by side make one part, their text. -/
def texts (pattern : Pattern) : List (List Pattern) :=
  pattern.parts.splitBy fun first second => first.isSingle && second.isSingle

def sameText : List Pattern → List Pattern → Bool
  | [], [] => true
  | first :: rest, other :: others => first.same other && sameText rest others
  | _, _ => false

def commonParts : List (List Pattern) → List (List Pattern) → Nat
  | first :: rest, other :: others => if sameText first other then commonParts rest others + 1 else 0
  | _, _ => 0

/-- How many parts all alternatives have in common at the start, if all of them are sequences. -/
def commonStart (sequences : List (List (List Pattern))) : Nat :=
  match sequences with
  | first :: others =>
    if sequences.all fun parts => 2 ≤ parts.length then
      others.foldl (fun count other => min count (commonParts first other)) first.length
    else 0
  | [] => 0

def anyOf (patterns : List Pattern) : Pattern :=
  let patterns := patterns.flatMap branches
  match joinClasses? patterns with
  | some set => ofClass set
  | none => ofBranches patterns

/-- One of several alternatives. What all of them start with is taken out; what is left of them
has no start in common, since choices inside them have been through the same. -/
def alternation (patterns : List Pattern) : Pattern :=
  let sequences := (patterns.flatMap branches).map texts
  match commonStart sequences with
  | 0 => anyOf patterns
  | count =>
    let rests := sequences.map fun parts => ofParts (parts.drop count).flatten
    concat (((sequences.headD []).take count).flatten ++ [anyOf rests])

/-! ## Repetition -/

/-- A number of repetitions within limits. What takes no character is tried once at most. -/
def «repeat» (body : Pattern) (least : Nat) (most : Option Nat) (greedy : Bool) : Pattern :=
  let (least, most) :=
    if body.isZeroWidth then (min least 1, some (min (most.getD 1) 1)) else (least, most)
  match least, most with
  | 0, some 0 => .empty
  | 1, some 1 => body
  | least, most => .repeated body least most greedy

end Pattern

end Proviso
