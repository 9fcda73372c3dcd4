import BitcoinKeys.Config.Json
import BitcoinKeys.Proofs.Constructors
import BitcoinKeys.Proofs.Service.Batches
import BitcoinKeys.Proofs.Service.KeyExport
import BitcoinKeys.Proofs.Service.SignedMessages
import BitcoinKeys.Proofs.Ecdsa.Textbook
import BitcoinKeys.Proofs.Ecdsa.Malleability
import BitcoinKeys.Proofs.PublicKey.SignedMessages
import BitcoinKeys.Proofs.PublicKey.Texts
import BitcoinKeys.Proofs.Positional.Decoders
import BitcoinKeys.Proofs.Ecdsa.Candidates
import BitcoinKeys.Proofs.PublicKey.RecoveryOutcomes
import BitcoinKeys.Proofs.PublicKey.FormOutcomes
import BitcoinKeys.Proofs.PublicKey.SignerOutcomes
import BitcoinKeys.Proofs.Service.MirroredSignatures
import BitcoinKeys.Proofs.Der.Checks
import BitcoinKeys.Proofs.PrivateKey.Derivation
import BitcoinKeys.Proofs.Network.Prefixes
import BitcoinKeys.Proofs.Service.Addresses
import BitcoinKeys.Proofs.PrivateKey.Drawing
import BitcoinKeys.Proofs.Config.Environment
import BitcoinKeys.Proofs.Signature.FixedWidth
import BitcoinKeys.Proofs.PrivateKey.Forms
import BitcoinKeys.Proofs.Service.Secrecy
import BitcoinKeys.Proofs.Der.Integers
import BitcoinKeys.Proofs.Json.Tokens
import BitcoinKeys.Proofs.Service.Warnings
import BitcoinKeys.Proofs.Json.Values
import BitcoinKeys.Proofs.Config.Json
import BitcoinKeys.Proofs.Bytes.Groups
import BitcoinKeys.Proofs.Base64.Groups
import BitcoinKeys.Proofs.Hex.Outcomes
import BitcoinKeys.Proofs.Network.Names
