import Proviso.Json.Source
import Proviso.Json.Writer

/-!
The settings of a compiler and their JSON form. Settings that are left out have their standard
values, and entries that are no settings are ignored; a list gives the settings in their order.
-/

namespace Proviso

structure Config where
  caseSensitive : Bool := true
  maxDepth : Nat := 256
  maxLength : Nat := 65536
  cacheCapacity : Nat := 1024
  deriving DecidableEq

namespace Config

def standard : Config := {}

def toJson (config : Config) : Json :=
  .object [
    ("case_sensitive", .bool config.caseSensitive),
    ("max_depth", .int config.maxDepth),
    ("max_expression_length", .int config.maxLength),
    ("cache_capacity", .int config.cacheCapacity)]

/-! ## Reading -/

def bool? : Json.Source → Option Bool
  | .bool value => some value
  | _ => none

/-- A number that an unsigned word of 64 bits holds, written without point and exponent. -/
def word? : Json.Source → Option Nat
  | .number source =>
    match source.toJson? with
    | some (.int value) => if 0 ≤ value then some value.toNat else none
    | _ => none
  | _ => none

def settingOr {α : Type} (standard : α) (read : Json.Source → Option α) :
    Option Json.Source → Option α
  | some source => read source
  | none => some standard

def entry? (entries : List (String × Json.Source)) (key : String) : Option (Option Json.Source) :=
  match entries.filter (·.1 == key) with
  | [] => some none
  | [(_, source)] => some (some source)
  | _ => none

def ofSettings? (caseSensitive maxDepth maxLength cacheCapacity : Option Json.Source) :
    Option Config := do
  let caseSensitive ← settingOr standard.caseSensitive bool? caseSensitive
  let maxDepth ← settingOr standard.maxDepth word? maxDepth
  let maxLength ← settingOr standard.maxLength word? maxLength
  let cacheCapacity ← settingOr standard.cacheCapacity word? cacheCapacity
  some { caseSensitive, maxDepth, maxLength, cacheCapacity }

def ofSource? : Json.Source → Option Config
  | .object entries => do
    let caseSensitive ← entry? entries "case_sensitive"
    let maxDepth ← entry? entries "max_depth"
    let maxLength ← entry? entries "max_expression_length"
    let cacheCapacity ← entry? entries "cache_capacity"
    ofSettings? caseSensitive maxDepth maxLength cacheCapacity
  | .array items =>
    if items.length ≤ 4 then ofSettings? items[0]? items[1]? items[2]? items[3]? else none
  | _ => none

def read? (text : String) : Option Config :=
  (Json.Source.read? text.toList).bind ofSource?

end Config

end Proviso
