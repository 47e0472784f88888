import Tabletop.Dice.D20
import Tabletop.Json.Decode

/-!
# Forms of dice

How formulas and rolls stand in JSON documents.  A term and a component of a roll name their variant
in the member `kind`.
-/

namespace Tabletop.Dice

open Tabletop.Json (tag tagged? record? uint32? int32? str? list? enum? innerEnum? ofUInt32 ofInt32)

/-! ## Terms and formulas -/

/-- The name of a sign in documents. -/
def Sign.key : Sign → String
  | .plus => "Plus"
  | .minus => "Minus"

/-- The form of a sign. -/
def Sign.toJson (s : Sign) : Json :=
  .str s.key

/-- Reads a sign. -/
def Sign.ofJson? : Json → Option Sign :=
  enum? [.plus, .minus] Sign.key

/-- Reads a sign inside a term or component. -/
def Sign.ofInnerJson? : Json → Option Sign :=
  innerEnum? [.plus, .minus] Sign.key

/-- The members of a group of dice. -/
def DiceTerm.members (d : DiceTerm) : List (String × Json) :=
  [("count", ofUInt32 d.count), ("sides", ofUInt32 d.sides), ("sign", d.sign.toJson)]

/-- The form of a group of dice. -/
def DiceTerm.toJson (d : DiceTerm) : Json :=
  .obj d.members

/-- Reads a group of dice whose sign is read by `sign?`. -/
def DiceTerm.read? (sign? : Json → Option Sign) (j : Json) : Option DiceTerm := do
  let slot ← record? ["count", "sides", "sign"] j
  let count ← (slot "count").required uint32?
  let sides ← (slot "sides").required uint32?
  let sign ← (slot "sign").required sign?
  return ⟨count, sides, sign⟩

/-- Reads a group of dice. -/
def DiceTerm.ofJson? (j : Json) : Option DiceTerm :=
  DiceTerm.read? Sign.ofJson? j

/-- Reads the value of a flat modifier. -/
def flatValue? (j : Json) : Option Int32 := do
  let slot ← record? ["value"] j
  (slot "value").required int32?

/-- The form of a term. -/
def Term.toJson : Term → Json
  | .dice d => tag "kind" "dice" d.members
  | .flat value => tag "kind" "flat" [("value", ofInt32 value)]

/-- Reads a term. -/
def Term.ofJson? (j : Json) : Option Term := do
  let (kind, fields) ← tagged? "kind" j
  if kind = "dice" then (DiceTerm.read? Sign.ofInnerJson? fields).map .dice
  else if kind = "flat" then (flatValue? fields).map .flat
  else none

/-- The form of a formula. -/
def Formula.toJson (f : Formula) : Json :=
  .obj [("terms", Json.ofList Term.toJson f.terms)]

/-- Reads a formula. -/
def Formula.ofJson? (j : Json) : Option Formula := do
  let slot ← record? ["terms"] j
  let terms ← (slot "terms").required (list? Term.ofJson?)
  return ⟨terms⟩

/-! ## Rolls -/

/-- The form of a component of a roll. -/
def RollComponent.toJson : RollComponent → Json
  | .dice label sign rolls subtotal total =>
    tag "kind" "dice" [("notation", .str label), ("sign", sign.toJson),
      ("rolls", Json.ofList ofUInt32 rolls), ("subtotal", ofInt32 subtotal),
      ("total", ofInt32 total)]
  | .modifier value => tag "kind" "modifier" [("value", ofInt32 value)]

/-- Reads the dice of a component. -/
def RollComponent.diceOfJson? (j : Json) : Option RollComponent := do
  let slot ← record? ["notation", "sign", "rolls", "subtotal", "total"] j
  let label ← (slot "notation").required str?
  let sign ← (slot "sign").required Sign.ofInnerJson?
  let rolls ← (slot "rolls").required (list? uint32?)
  let subtotal ← (slot "subtotal").required int32?
  let total ← (slot "total").required int32?
  return .dice label sign rolls subtotal total

/-- Reads a component of a roll. -/
def RollComponent.ofJson? (j : Json) : Option RollComponent := do
  let (kind, fields) ← tagged? "kind" j
  if kind = "dice" then RollComponent.diceOfJson? fields
  else if kind = "modifier" then (flatValue? fields).map .modifier
  else none

/-- The form of a roll. -/
def RollResult.toJson (r : RollResult) : Json :=
  .obj [("formula", .str r.formula), ("total", ofInt32 r.total),
    ("components", Json.ofList RollComponent.toJson r.components)]

/-- Reads a roll. -/
def RollResult.ofJson? (j : Json) : Option RollResult := do
  let slot ← record? ["formula", "total", "components"] j
  let formula ← (slot "formula").required str?
  let total ← (slot "total").required int32?
  let components ← (slot "components").required (list? RollComponent.ofJson?)
  return ⟨formula, total, components⟩

/-- The form of a critical roll. -/
def CriticalRoll.toJson (r : CriticalRoll) : Json :=
  .obj [("original_formula", .str r.baseFormula), ("roll", r.roll.toJson)]

/-- Reads a critical roll. -/
def CriticalRoll.ofJson? (j : Json) : Option CriticalRoll := do
  let slot ← record? ["original_formula", "roll"] j
  let formula ← (slot "original_formula").required str?
  let roll ← (slot "roll").required RollResult.ofJson?
  return ⟨formula, roll⟩

/-- The modes of a roll. -/
def RollMode.all : List RollMode :=
  [.normal, .advantage, .disadvantage]

/-- The form of a mode. -/
def RollMode.toJson (m : RollMode) : Json :=
  .str m.name

/-- Reads a mode. -/
def RollMode.ofJson? : Json → Option RollMode :=
  enum? RollMode.all RollMode.name

/-- Reads a mode inside an event. -/
def RollMode.ofInnerJson? : Json → Option RollMode :=
  innerEnum? RollMode.all RollMode.name

/-- The form of the roll of a twenty-sided die. -/
def D20Roll.toJson (r : D20Roll) : Json :=
  .obj [("mode", r.mode.toJson), ("formula", .str r.formula),
    ("rolls", Json.ofList ofUInt32 r.rolls), ("chosen", ofUInt32 r.chosen),
    ("remainder", r.remainder.toJson), ("modifier", ofInt32 r.modifier),
    ("total", ofInt32 r.total)]

/-- Reads the roll of a twenty-sided die. -/
def D20Roll.ofJson? (j : Json) : Option D20Roll := do
  let slot ← record? ["mode", "formula", "rolls", "chosen", "remainder", "modifier", "total"] j
  let mode ← (slot "mode").required RollMode.ofJson?
  let formula ← (slot "formula").required str?
  let rolls ← (slot "rolls").required (list? uint32?)
  let chosen ← (slot "chosen").required uint32?
  let remainder ← (slot "remainder").required RollResult.ofJson?
  let modifier ← (slot "modifier").required int32?
  let total ← (slot "total").required int32?
  return ⟨mode, formula, rolls, chosen, remainder, modifier, total⟩

end Tabletop.Dice
