import Tabletop.Dice.Average
import Tabletop.Dice.Random
import Tabletop.Form.Config
import Tabletop.Form.Modifiers
import Tabletop.Play.Resume
import Tabletop.Play.Roster
import Tabletop.Proofs.Grouping
import Tabletop.Proofs.Sums
import Tabletop.Proofs.Text.Numerals
import Tabletop.Proofs.Dice.Reading
import Tabletop.Proofs.Sheet.Bounds
import Tabletop.Proofs.Sheet.Slot
import Tabletop.Proofs.Play.Acceptance
import Tabletop.Proofs.Play.Life
import Tabletop.Proofs.Form.Bounds
import Tabletop.Proofs.Play.Soundness
import Tabletop.Proofs.Play.WellFormedness
import Tabletop.Proofs.Play.Countdown
import Tabletop.Proofs.Play.Uses
import Tabletop.Proofs.Play.AttackRoll
import Tabletop.Proofs.Play.Refusal
import Tabletop.Proofs.Play.DamageTotal
import Tabletop.Proofs.Dice.Drawing
import Tabletop.Proofs.Play.DamageFormula
import Tabletop.Proofs.Dice.Grammar
import Tabletop.Proofs.Dice.Writing
import Tabletop.Proofs.Play.Replay
import Tabletop.Proofs.Json.Document
import Tabletop.Proofs.Identifier
import Tabletop.Proofs.Time.Rfc3339
import Tabletop.Proofs.Json.RoundTrip
import Tabletop.Proofs.Form.RoundTrip
import Tabletop.Proofs.Save.Document
import Tabletop.Proofs.Play.Rest
import Tabletop.Proofs.Play.AttackChange
import Tabletop.Proofs.Play.TurnCount
import Tabletop.Proofs.Play.Availability
import Tabletop.Proofs.Dice.Reports
import Tabletop.Proofs.Play.Independence
import Tabletop.Proofs.Save.FileSystem
import Tabletop.Proofs.Save.Path
import Tabletop.Proofs.Save.Storing
import Tabletop.Proofs.Play.Resume
import Tabletop.Proofs.Save.Listing
import Tabletop.Proofs.Dice.Range
import Tabletop.Proofs.Dice.D20
import Tabletop.Proofs.Play.Advantage
import Tabletop.Proofs.Rules.Matching
import Tabletop.Proofs.Sheet.HitPoints
import Tabletop.Proofs.Play.HitPoints
import Tabletop.Proofs.Play.Applicability
import Tabletop.Proofs.Dice.Operands
import Tabletop.Proofs.Rules.Placeholder
import Tabletop.Proofs.Rules.Substitution
import Tabletop.Proofs.Dice.Modes
import Tabletop.Proofs.Rules.Replacement
import Tabletop.Proofs.Play.Groups
import Tabletop.Proofs.Save.Summary
import Tabletop.Proofs.Play.Saving
