import FlashSeal.Main
import FlashSeal.Proofs.CommandRoundTrip
import FlashSeal.Proofs.EncodingRoundTrip
import FlashSeal.Proofs.NeighbourAreas
import FlashSeal.Proofs.SealPermanence
import FlashSeal.Proofs.AreaReading
import FlashSeal.Proofs.PlaceOutcome
import FlashSeal.Proofs.EncodingLayout
import FlashSeal.Proofs.HashField
import FlashSeal.Proofs.DecodeFailure
import FlashSeal.Proofs.PaddedSealing
import FlashSeal.Proofs.SearchStability
import FlashSeal.Proofs.MapConversion
import FlashSeal.Proofs.EmbedOutcome
import FlashSeal.Proofs.RegionBound
import FlashSeal.Proofs.SizeAgreement
import FlashSeal.Proofs.QuantityRoundTrip
import FlashSeal.Proofs.QuantityLanguage
import FlashSeal.Proofs.RecordBytes
import FlashSeal.Proofs.InsertionRuns
