import PixelChip.FileTree
import PixelChip.Host.Daemon
import PixelChip.Main
import PixelChip.Random.Draw
import PixelChip.Proofs.Command.Acceptance
import PixelChip.Proofs.Chip.Batches
import PixelChip.Proofs.Chip.Interval
import PixelChip.Proofs.Chip.Mode
import PixelChip.Proofs.Chip.Output
import PixelChip.Proofs.Chip.ReadBack
import PixelChip.Proofs.Chip.Requests
import PixelChip.Proofs.Link.Resynchronisation
import PixelChip.Proofs.Link.Streaming
import PixelChip.Proofs.Link.EncodedLength
import PixelChip.Proofs.Dissect.Account
import PixelChip.Proofs.Frame.Ambiguity
import PixelChip.Proofs.Chip.Digital
import PixelChip.Proofs.Host.Session
import PixelChip.Proofs.Host.Service
import PixelChip.Proofs.Chip.History
import PixelChip.Proofs.Chip.Inlet
import PixelChip.Proofs.Dissect.HexReport
import PixelChip.Proofs.Frame.Reencoding
import PixelChip.Proofs.Link.Truncation
import PixelChip.Proofs.Command.Completion
import PixelChip.Proofs.Chip.Write
import PixelChip.Proofs.Chip.ThresholdCache
import PixelChip.Proofs.Chip.Report
import PixelChip.Proofs.Command.Order
import PixelChip.Proofs.Command.Refusal
import PixelChip.Proofs.Link.Framing
import PixelChip.Proofs.Chip.RegisterHistory
import PixelChip.Proofs.Chip.PixelHistory
import PixelChip.Proofs.Link.Conservation
import PixelChip.Proofs.Dissect.HexGrammar
import PixelChip.Proofs.Link.Identification
import PixelChip.Proofs.Config.Settings
import PixelChip.Proofs.Checked.Run
import PixelChip.Proofs.Checked.Decoding
