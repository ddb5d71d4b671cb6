import InlineSecrets.Assoc
import InlineSecrets.Base64
import InlineSecrets.Bytes
import InlineSecrets.Cipher.Aes
import InlineSecrets.Cipher.Gcm
import InlineSecrets.Cipher.Payload
import InlineSecrets.Command.Cast
import InlineSecrets.Command.Inputs
import InlineSecrets.Command.Polling
import InlineSecrets.Command.Rehearsal
import InlineSecrets.Command.Runner
import InlineSecrets.Command.Supervision
import InlineSecrets.CommandLine.Demand
import InlineSecrets.CommandLine.Markup
import InlineSecrets.CommandLine.Options
import InlineSecrets.CommandLine.Output
import InlineSecrets.CommandLine.Program
import InlineSecrets.Config.Setting
import InlineSecrets.Config.Settings
import InlineSecrets.Config.Sources
import InlineSecrets.Dotenv
import InlineSecrets.Engine
import InlineSecrets.Entropy
import InlineSecrets.Files
import InlineSecrets.Json.Basic
import InlineSecrets.Json.Canonical
import InlineSecrets.Key
import InlineSecrets.Locator
import InlineSecrets.Main
import InlineSecrets.Number.Arithmetic
import InlineSecrets.Number.Double
import InlineSecrets.Number.Layout
import InlineSecrets.Number.Reading
import InlineSecrets.Number.Shortest
import InlineSecrets.Pattern.Basic
import InlineSecrets.Pattern.Reading
import InlineSecrets.Span
import InlineSecrets.Text.Alphanumeric
import InlineSecrets.Text.Basic
import InlineSecrets.Text.Class
import InlineSecrets.Text.Codes
import InlineSecrets.Text.Digit
import InlineSecrets.Text.Pictures
import InlineSecrets.Text.Quoted
import InlineSecrets.Text.Unprintable
import InlineSecrets.Text.Width
import InlineSecrets.Token.Scan
import InlineSecrets.Token.Shape
import InlineSecrets.Tool
import InlineSecrets.Torn
import InlineSecrets.Utf8
import InlineSecrets.Vault.Client
import InlineSecrets.Vault.Server
import InlineSecrets.Vault.Store
import InlineSecrets.Wrapper
import InlineSecrets.Yaml.Document
import InlineSecrets.Yaml.Forms
import InlineSecrets.Yaml.Lexing
import InlineSecrets.Yaml.Merge
import InlineSecrets.Yaml.Names
import InlineSecrets.Yaml.Node
import InlineSecrets.Yaml.Scalars
import InlineSecrets.Yaml.Tag
import InlineSecrets.Yaml.Token
import InlineSecrets.Proofs.Base64
import InlineSecrets.Proofs.Pieces
import InlineSecrets.Proofs.Utf8
import InlineSecrets.Proofs.Enclosed
import InlineSecrets.Proofs.Sealing
import InlineSecrets.Proofs.References
import InlineSecrets.Proofs.Command.Stopping
import InlineSecrets.Proofs.Command.Children
import InlineSecrets.Proofs.Command.Isolation
import InlineSecrets.Proofs.Command.Mail
import InlineSecrets.Proofs.Command.Coalescing
import InlineSecrets.Proofs.Keeping
import InlineSecrets.Proofs.Relocating
import InlineSecrets.Proofs.Command.Supervised
import InlineSecrets.Proofs.Command.Drift
import InlineSecrets.Proofs.Command.Restarting
import InlineSecrets.Proofs.Lines
import InlineSecrets.Proofs.Remote
import InlineSecrets.Proofs.Slots
import InlineSecrets.Proofs.Pipeline
import InlineSecrets.Proofs.Leftmost
import InlineSecrets.Proofs.Matching
import InlineSecrets.Proofs.Grammar
import InlineSecrets.Proofs.Failing
import InlineSecrets.Proofs.Command.Chronicles
import InlineSecrets.Proofs.Command.Outcomes
import InlineSecrets.Proofs.Redacting
import InlineSecrets.Proofs.Quoted
import InlineSecrets.Proofs.Resealing
import InlineSecrets.Proofs.Opening
import InlineSecrets.Proofs.Nonces
import InlineSecrets.Proofs.Prefixed
import InlineSecrets.Proofs.Contents
import InlineSecrets.Proofs.Command.Environment
import InlineSecrets.Proofs.Quoting
import InlineSecrets.Proofs.Hiding
import InlineSecrets.Proofs.Command.Notices
import InlineSecrets.Proofs.Config.Merging
import InlineSecrets.Proofs.Config.Fields
import InlineSecrets.Proofs.Config.Reading
import InlineSecrets.Proofs.Config.Escaping
import InlineSecrets.Proofs.Config.Documents
import InlineSecrets.Proofs.Config.Checking
import InlineSecrets.Proofs.Config.Precedence
import InlineSecrets.Proofs.Basic
import InlineSecrets.Proofs.Json.Reordering
import InlineSecrets.Proofs.Json.Compact
import InlineSecrets.Proofs.Json.Reading
import InlineSecrets.Proofs.Json.Halves
import InlineSecrets.Proofs.Command.Expansion
import InlineSecrets.Proofs.Command.Reasons
import InlineSecrets.Proofs.Command.Rehearsing
import InlineSecrets.Proofs.Command.Rearranged
import InlineSecrets.Proofs.CommandLine.Status
import InlineSecrets.Proofs.Config.Keys
import InlineSecrets.Proofs.Ways
import InlineSecrets.Proofs.Searching
import InlineSecrets.Proofs.Locating
