import CardBattle.Main
import CardBattle.Settings.Held
import CardBattle.Proofs.Absorption
import CardBattle.Proofs.Accepted
import CardBattle.Proofs.Activation
import CardBattle.Proofs.Capped
import CardBattle.Proofs.Carried
import CardBattle.Proofs.Clamped
import CardBattle.Proofs.Conversion
import CardBattle.Proofs.Decision
import CardBattle.Proofs.Decks
import CardBattle.Proofs.Discounts
import CardBattle.Proofs.Enchanting
import CardBattle.Proofs.Entries
import CardBattle.Proofs.Exposure
import CardBattle.Proofs.Fractions
import CardBattle.Proofs.Frame
import CardBattle.Proofs.Guarded
import CardBattle.Proofs.Hand
import CardBattle.Proofs.Inert
import CardBattle.Proofs.Live
import CardBattle.Proofs.Loaded
import CardBattle.Proofs.Order
import CardBattle.Proofs.Origins
import CardBattle.Proofs.Power
import CardBattle.Proofs.Questions
import CardBattle.Proofs.Requests
import CardBattle.Proofs.Restart
import CardBattle.Proofs.Selections
import CardBattle.Proofs.Sessions
import CardBattle.Proofs.Shielding
import CardBattle.Proofs.Skips
import CardBattle.Proofs.Streams
import CardBattle.Proofs.Totality
import CardBattle.Proofs.Written
