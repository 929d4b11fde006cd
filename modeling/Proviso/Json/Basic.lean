/-!
JSON data. A number is a whole number of at most 64 bits or a double; the entries of an object
keep the order in which they were put.
-/

namespace Proviso

inductive Json where
  | null
  | bool (value : Bool)
  | int (value : Int)
  | float (value : Float)
  | string (value : String)
  | array (items : List Json)
  | object (entries : List (String × Json))
  deriving Inhabited

namespace Json

def find? (entries : List (String × Json)) (key : String) : Option Json :=
  entries.lookup key

/-- The entry of an object under a key; null for a missing one and for other data. -/
def field (json : Json) (key : String) : Json :=
  match json with
  | .object entries => (find? entries key).getD .null
  | _ => .null

def insertEntry (key : String) (value : Json) : List (String × Json) → List (String × Json)
  | [] => [(key, value)]
  | (other, present) :: rest =>
    if key < other then (key, value) :: (other, present) :: rest
    else if key = other then (key, value) :: rest
    else (other, present) :: insertEntry key value rest

/-- Entries in ascending order of their keys; of equal keys the last one counts. -/
def sortEntries (entries : List (String × Json)) : List (String × Json) :=
  entries.foldl (fun sorted (key, value) => insertEntry key value sorted) []

end Json

end Proviso
