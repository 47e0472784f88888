import Tabletop.Form.Character
import Tabletop.Play.Config
import Tabletop.Toml.Document

/-!
# Forms of session settings

Settings are shown in JSON and read from TOML, under the keys `target_ac`, `roll_mode`,
`log_retention` and `save_dir`.  Keys that are missing from a TOML document keep their defaults, and
others are passed over.
-/

namespace Tabletop.Play

open Tabletop.Dice Tabletop.Sheet Tabletop.Toml
open Tabletop.Json (ofInt32 ofOption)

/-! ## JSON -/

/-- The form of settings. -/
def SessionConfig.toJson (c : SessionConfig) : Json :=
  .obj [("target_ac", ofInt32 c.targetAc), ("roll_mode", c.rollMode.toJson),
    ("log_retention", ofOption LogRetention.toJson c.logRetention), ("save_dir", .str c.saveDir)]

/-! ## TOML -/

/-- Whether a value is an array or a table without elements. -/
def isEmptyContainer : Value → Bool
  | .arr items => items.isEmpty
  | .table entries => entries.isEmpty
  | _ => false

/-- A value of an enumeration: its name, or a table that gives an empty container under its name. -/
def tomlEnum? {α : Type} (values : List α) (name : α → String) : Value → Option α
  | .str s => values.find? fun a => name a == s
  | .table [(key, v)] => if isEmptyContainer v then values.find? fun a => name a == key else none
  | _ => none

/-- An integer of 32 bits. -/
def tomlInt32? : Value → Option Int32
  | .int n => if -2147483648 ≤ n ∧ n ≤ 2147483647 then some (Int32.ofInt n) else none
  | _ => none

/-- A string. -/
def tomlString? : Value → Option String
  | .str s => some s
  | _ => none

/-- The value of a key, or a default where the key is missing. -/
def setting? {α : Type} (entries : List (String × Value)) (key : String) (default : α)
    (read : Value → Option α) : Option α :=
  match entries.lookup key with
  | none => some default
  | some v => read v

/-- The settings of a TOML document. -/
def SessionConfig.ofToml? (text : String) : Option SessionConfig := do
  let entries ← Toml.parse? text
  let base := SessionConfig.default
  let targetAc ← setting? entries "target_ac" base.targetAc tomlInt32?
  let rollMode ← setting? entries "roll_mode" base.rollMode (tomlEnum? RollMode.all RollMode.name)
  let logRetention ← setting? entries "log_retention" base.logRetention fun v =>
    (tomlEnum? LogRetention.all LogRetention.key v).map some
  let saveDir ← setting? entries "save_dir" base.saveDir tomlString?
  return ⟨targetAc, rollMode, logRetention, saveDir⟩

end Tabletop.Play
