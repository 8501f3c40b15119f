import Registrar.Address.Json
import Registrar.Cli.Files
import Registrar.Digest.Text
import Registrar.Json.Printer
import Registrar.Json.Reader
import Registrar.Main
import Registrar.Proofs.Address.Aliases
import Registrar.Proofs.Registry.Answer
import Registrar.Proofs.Registry.Attachment
import Registrar.Proofs.Registry.Chain
import Registrar.Proofs.Registry.Disclosure
import Registrar.Proofs.Registry.Handover
import Registrar.Proofs.Registry.Labels
import Registrar.Proofs.Registry.Lifecycle
import Registrar.Proofs.Registry.Signing
import Registrar.Proofs.Transaction.Asset
import Registrar.Proofs.Transaction.Holder
import Registrar.Proofs.Transaction.Resubmission
import Registrar.Proofs.Value.Entries
import Registrar.Proofs.Value.Projection
import Registrar.Proofs.Value.Spelling
import Registrar.Proofs.Wire.Counts
import Registrar.Proofs.Base32.Conversion
import Registrar.Proofs.Name.Wire
import Registrar.Proofs.Wire.Runs
import Registrar.Proofs.Binary
import Registrar.Proofs.Cli.PriceQuote
