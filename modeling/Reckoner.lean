import Reckoner.Expr
import Reckoner.Main
import Reckoner.Number.Digits.Lemmas
import Reckoner.Proofs.Entry
import Reckoner.Proofs.Phrase
import Reckoner.Window
import Reckoner.Proofs.Spelling
import Reckoner.Proofs.Lexeme
import Reckoner.Proofs.Balance
import Reckoner.Proofs.History
import Reckoner.Proofs.Parentheses
import Reckoner.Proofs.Rounding
import Reckoner.Proofs.PowerDomain
import Reckoner.Proofs.Text.Lines
import Reckoner.Proofs.Conversation
import Reckoner.Proofs.Gap
import Reckoner.Proofs.Keys
import Reckoner.Proofs.Pieces
import Reckoner.Proofs.Readback
import Reckoner.Proofs.Rounded
import Reckoner.Proofs.Conservation
import Reckoner.Proofs.Canonical
import Reckoner.Proofs.ExactPower
import Reckoner.Proofs.PowerSign
import Reckoner.Proofs.SquareRoot
import Reckoner.Proofs.Guards
import Reckoner.Proofs.Refusals
import Reckoner.Proofs.Layers
import Reckoner.Proofs.Notes
import Reckoner.Proofs.Reasons
import Reckoner.Proofs.Hosts
import Reckoner.Proofs.PlaceValue
