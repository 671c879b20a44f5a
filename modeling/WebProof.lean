import WebProof.Encoding
import WebProof.Freshness
import WebProof.Program.Authenticity
import WebProof.EndToEnd
import WebProof.RoundTrip
import WebProof.FileIntegrity
import WebProof.Validation
import WebProof.AccountLayout
import WebProof.PacketLimit
import WebProof.Verifier.Outcome
import WebProof.Demo.Trust
import WebProof.Tlsn.Authenticated
import WebProof.Tlsn.Acceptance
import WebProof.ExpectedExchange
import WebProof.Demo.SigningKey
import WebProof.Demo.Field
import WebProof.Tlsn.Roots
import WebProof.Provenance
import WebProof.NumericClaims
import WebProof.Program.Commutation
import WebProof.System
import WebProof.Cli.Pipeline
import WebProof.Cli.Get
