import Proviso.Writing.Case

/-!
The order of texts by their code points, with and without regard to case, and the search for
one text in another.
-/

namespace Proviso.Text

def order : List Char → List Char → Ordering
  | [], [] => .eq
  | [], _ :: _ => .lt
  | _ :: _, [] => .gt
  | first :: rest, second :: others =>
    if first.toNat < second.toNat then .lt
    else if second.toNat < first.toNat then .gt
    else order rest others

def comparable (caseSensitive : Bool) (text : String) : List Char :=
  if caseSensitive then text.toList else lowercase text.toList

def occursIn (part : List Char) : List Char → Bool
  | [] => part.isEmpty
  | char :: rest => part.isPrefixOf (char :: rest) || occursIn part rest

end Proviso.Text
