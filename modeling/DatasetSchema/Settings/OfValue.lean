import DatasetSchema.Settings.Basic
import DatasetSchema.Toml.Document

/-!
# Reading settings

Settings have two sections, `compiler` and `output`, with the keys `strict_identifiers`, and
`indent_width` and `blank_lines`. Whatever is left out keeps its default, and keys that are not
known are ignored. A section may also list its values in this order.
-/

namespace DatasetSchema

/-- A value that settings are read from. -/
inductive SettingsValue where
  | boolean (value : Bool)
  | integer (value : Int)
  /-- A value of a kind that no setting has. -/
  | other
  /-- A number that cannot be represented; it is refused even where it would be ignored. -/
  | tooLarge
  | sequence (items : List SettingsValue)
  | mapping (entries : List (String × SettingsValue))
  deriving Repr

namespace SettingsValue

mutual

/-- Whether all of a value can be represented. -/
def isReadable : SettingsValue → Bool
  | .tooLarge => false
  | .sequence items => areReadable items
  | .mapping entries => areReadableEntries entries
  | .boolean _ | .integer _ | .other => true

/-- Whether all items can be represented. -/
def areReadable : List SettingsValue → Bool
  | [] => true
  | item :: items => item.isReadable && areReadable items

/-- Whether the values of all entries can be represented. -/
def areReadableEntries : List (String × SettingsValue) → Bool
  | [] => true
  | (_, value) :: entries => value.isReadable && areReadableEntries entries

end

/-- A truth value. -/
def boolean? : SettingsValue → Option Bool
  | .boolean b => some b
  | _ => none

/-- A width: a natural number below `2 ^ 64`. -/
def width? : SettingsValue → Option Nat
  | .integer n => if 0 ≤ n ∧ n < (Number.powerOfTwo 64 : Int) then some n.toNat else none
  | _ => none

/-- The values of a section by its keys; a key that is left out has none. The keys name the
positions of a section that is a sequence. More values than keys are refused if `exact`,
and otherwise ignored. -/
def sectionValues? (exact : Bool) (keys : List String) : SettingsValue →
    Option (List (Option SettingsValue))
  | .sequence items =>
    if exact && keys.length < items.length then none
    else some ((List.range keys.length).map fun n => items[n]?)
  | .mapping entries =>
    if areReadableEntries (entries.filter fun e => !keys.contains e.1) then
      some (keys.map fun key => entries.lookup key)
    else none
  | _ => none

/-- Reads a value that may be left out. -/
def orDefault? {α : Type} (read : SettingsValue → Option α) (default : α) :
    Option SettingsValue → Option α
  | none => some default
  | some value => read value

end SettingsValue

namespace Settings

open SettingsValue

/-- The value of the section with a name. -/
def sectionOf (entries : List (String × SettingsValue)) (name : String) : SettingsValue :=
  (entries.lookup name).getD (.mapping [])

/-- The settings with what the entries of a value say. -/
def ofEntries? (exact : Bool) (entries : List (String × SettingsValue)) : Option Settings := do
  let known := ["compiler", "output"]
  if !areReadableEntries (entries.filter fun e => !known.contains e.1) then none
  else
    let default : Settings := {}
    let compiler ← sectionValues? exact ["strict_identifiers"] (sectionOf entries "compiler")
    let output ← sectionValues? exact ["indent_width", "blank_lines"] (sectionOf entries "output")
    return {
      strictIdentifiers := ← orDefault? boolean? default.strictIdentifiers (compiler[0]?.join)
      indentWidth := ← orDefault? width? default.indentWidth (output[0]?.join)
      blankLines := ← orDefault? width? default.blankLines (output[1]?.join) }

mutual

/-- A TOML value as a value that settings are read from. A date or time counts as a section without
values. -/
def valueOfToml : Toml.Value → SettingsValue
  | .boolean b => .boolean b
  | .integer n => .integer n
  | .decimal | .text _ => .other
  | .tooLarge => .tooLarge
  | .dateTime => .mapping []
  | .array items => .sequence (itemsOfToml items)
  | .table entries => .mapping (entriesOfToml entries)

/-- The items of a TOML array. -/
def itemsOfToml : List Toml.Value → List SettingsValue
  | [] => []
  | item :: items => valueOfToml item :: itemsOfToml items

/-- The entries of a TOML table. -/
def entriesOfToml : List (String × Toml.Value) → List (String × SettingsValue)
  | [] => []
  | (key, value) :: entries => (key, valueOfToml value) :: entriesOfToml entries

end

/-- Why a settings file cannot be used. -/
inductive Fault where
  | missing (path : String)
  /-- The file is no TOML document, or a setting is of the wrong kind. -/
  | malformed
  | zeroIndentWidth
  | zeroBlankLines
  deriving DecidableEq, Repr

/-- A fault in words. -/
def Fault.text : Fault → String
  | .missing path => "Missing configuration file: " ++ path
  | .malformed => "Failed to parse TOML configuration"
  | .zeroIndentWidth => "Invalid configuration: output.indent_width must be at least 1"
  | .zeroBlankLines => "Invalid configuration: output.blank_lines must be at least 1"

/-- The settings of a file with this text. Widths have to be positive. -/
def ofText (text : String) : Except Fault Settings :=
  match (Toml.ofText? text).bind fun entries => ofEntries? false (entriesOfToml entries) with
  | none => .error .malformed
  | some settings =>
    if settings.indentWidth = 0 then .error .zeroIndentWidth
    else if settings.blankLines = 0 then .error .zeroBlankLines
    else .ok settings

end Settings

end DatasetSchema
