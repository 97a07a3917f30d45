import Keyring.Log.Setup
import Keyring.Query.Building
import Keyring.Query.Parse
import Keyring.Query.Selection
import Keyring.Query.Writing
import Keyring.Session
import Keyring.Text.Hex
import Keyring.Proofs.Query.Completeness
import Keyring.Proofs.Query.Recognition
import Keyring.Proofs.Query.Evaluation
import Keyring.Proofs.Base64.Detection
import Keyring.Proofs.Secret.Envelope
import Keyring.Proofs.Number.Rounding
import Keyring.Proofs.Number.Shortest
import Keyring.Proofs.Number.Digits
import Keyring.Proofs.Number.Numeral
import Keyring.Proofs.Query.Lexing
import Keyring.Proofs.Query.Rendering
import Keyring.Proofs.Query.RoundTrip
import Keyring.Proofs.Base64.Lines
import Keyring.Proofs.Secret.Legacy
import Keyring.Proofs.Number.Recognition
import Keyring.Proofs.Query.Lexeme
import Keyring.Proofs.Query.Tokenization
import Keyring.Proofs.Query.Viability
import Keyring.Proofs.Query.Coupling
import Keyring.Proofs.Query.Examination
import Keyring.Proofs.Query.Truth
import Keyring.Proofs.Query.Joining
import Keyring.Proofs.Query.Composition
import Keyring.Proofs.Query.Outcomes
import Keyring.Proofs.Secret.Damage
import Keyring.Proofs.Secret.Storage
import Keyring.Proofs.Secret.Agreement
import Keyring.Proofs.Secret.Pieces
import Keyring.Proofs.Secret.Redaction
import Keyring.Proofs.Log.Blocks
import Keyring.Proofs.Query.Identity
import Keyring.Proofs.Cipher.Opening
import Keyring.Proofs.Secret.MasterKey
import Keyring.Proofs.Query.Confinement
import Keyring.Proofs.Session.Calls
import Keyring.Proofs.Session.Survival
import Keyring.Proofs.Session.Startup
import Keyring.Proofs.Candidate.Failures
import Keyring.Proofs.Candidate.Resolution
import Keyring.Proofs.Query.Exactness
import Keyring.Proofs.Query.Discretion
import Keyring.Proofs.Candidate.Lookup
import Keyring.Proofs.Base64.Acceptance
import Keyring.Proofs.Base64.Order
import Keyring.Proofs.Base64.Widths
import Keyring.Proofs.Secret.Refusal
import Keyring.Proofs.Trace
import Keyring.Proofs.Text.Parts
import Keyring.Proofs.Query.Annotation
import Keyring.Proofs.Query.Building
import Keyring.Proofs.Query.Selection
import Keyring.Proofs.Query.Chains
import Keyring.Proofs.Query.Escaping
import Keyring.Proofs.Query.Words
import Keyring.Proofs.Candidate.Raising
import Keyring.Proofs.Query.Reporting
