import StatelessPgp.Backend.Script
import StatelessPgp.Digest
import StatelessPgp.Main
import StatelessPgp.Proofs.Channels.Refinement
import StatelessPgp.Proofs.Cli.Backing
import StatelessPgp.Proofs.Cli.Collision
import StatelessPgp.Proofs.Cli.OutputChecks
import StatelessPgp.Proofs.Cli.KeyRelay
import StatelessPgp.Proofs.Cli.Verifying
import StatelessPgp.Proofs.Profile.Relay
import StatelessPgp.Proofs.Concurrent.Alone
import StatelessPgp.Proofs.Concurrent.Independence
import StatelessPgp.Proofs.Designator.Shadowing
import StatelessPgp.Proofs.Environment.Layers
import StatelessPgp.Proofs.Exchange.Progress
import StatelessPgp.Proofs.Operation.Ending
import StatelessPgp.Proofs.Operation.Secrecy
import StatelessPgp.Proofs.Operation.Vector
import StatelessPgp.Proofs.Time.Bounds
import StatelessPgp.Proofs.Verification.Relay
import StatelessPgp.Text.Utf8
import StatelessPgp.Proofs.Time.Fields
import StatelessPgp.Proofs.Time.Spellings
import StatelessPgp.Proofs.Profile.Built
import StatelessPgp.Proofs.Json.Numerals
import StatelessPgp.Proofs.Verification.Built
import StatelessPgp.Proofs.Json.Tokens
import StatelessPgp.Proofs.Json.Trees
import StatelessPgp.Proofs.Json.Values
import StatelessPgp.Proofs.Verification.Extension
import StatelessPgp.Proofs.SessionKey.Grammar
import StatelessPgp.Proofs.Channels.Freshness
import StatelessPgp.Proofs.Operation.Malformed
import StatelessPgp.Proofs.Failure.Contexts
import StatelessPgp.Proofs.Exchange.Collection
import StatelessPgp.Proofs.Cli.Banner
