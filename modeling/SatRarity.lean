import SatRarity.Coordinate.Dictionary
import SatRarity.Frozen
import SatRarity.Main
import SatRarity.Proofs.Arrangement
import SatRarity.Proofs.Condition
import SatRarity.Proofs.Conjunction
import SatRarity.Proofs.Dictionary
import SatRarity.Proofs.Ending
import SatRarity.Proofs.History
import SatRarity.Proofs.Influence
import SatRarity.Proofs.Isolation
import SatRarity.Proofs.Logging
import SatRarity.Proofs.Numbering
import SatRarity.Proofs.Quotation
import SatRarity.Proofs.Ranking
import SatRarity.Proofs.Readers
import SatRarity.Proofs.Recognition
import SatRarity.Proofs.Resubmission
import SatRarity.Proofs.Rules
import SatRarity.Proofs.Surfaces
import SatRarity.Proofs.TierRecord
import SatRarity.Proofs.Validation
import SatRarity.Service.Session
import SatRarity.Tier.Order
import SatRarity.Validation.TierInfo
