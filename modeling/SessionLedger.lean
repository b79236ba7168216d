import SessionLedger.Text.Blank
import SessionLedger.Text.Decimal
import SessionLedger.Text.Split
import SessionLedger.Text.Utf8
import SessionLedger.Encoding.Base64
import SessionLedger.Digest.Hmac
import SessionLedger.Time.Rfc3339
import SessionLedger.Json.Value
import SessionLedger.Json.Quoted
import SessionLedger.Json.Number
import SessionLedger.Json.Ignored
import SessionLedger.Json.Content
import SessionLedger.Json.Record
import SessionLedger.Token.Claims
import SessionLedger.Token.Header
import SessionLedger.Token.Signer
import SessionLedger.Lifetime
import SessionLedger.Effect
import SessionLedger.World.Run
import SessionLedger.Session.Lifecycle
import SessionLedger.World.Joined
import SessionLedger.Password.Hash
import SessionLedger.Session.Settings
import SessionLedger.Unicode.Alphanumeric
import SessionLedger.Unicode.BidiClass
import SessionLedger.Unicode.Composed
import SessionLedger.Unicode.Mark
import SessionLedger.Idna.Mapping
import SessionLedger.Email.Address
import SessionLedger.Config.Dotenv
import SessionLedger.Config.Settings
import SessionLedger.Http.Server
import SessionLedger.Proofs.Program.Keeps
import SessionLedger.Proofs.Traffic.Run
import SessionLedger.Proofs.Traffic.Diary
import SessionLedger.Proofs.Traffic.Entry
import SessionLedger.Proofs.Session.Keys
import SessionLedger.Proofs.Session.Conduct
import SessionLedger.Proofs.Session.Conducted
import SessionLedger.Proofs.Session.Lifecycle
import SessionLedger.Proofs.Ledger.Provenance
import SessionLedger.Proofs.Encoding.Base64
import SessionLedger.Proofs.Json.Quoted
import SessionLedger.Proofs.Json.Number
import SessionLedger.Proofs.Json.Record
import SessionLedger.Proofs.Json.Ignored
import SessionLedger.Proofs.Token.Claims
import SessionLedger.Proofs.Token.Signer
import SessionLedger.Proofs.Ledger.Spent
import SessionLedger.Proofs.Ledger.Revocation
import SessionLedger.Proofs.Ledger.Race
import SessionLedger.Proofs.Traffic.Alone
import SessionLedger.Proofs.Traffic.Performed
import SessionLedger.Proofs.Traffic.Joined
import SessionLedger.Proofs.Ledger.Independence
import SessionLedger.Proofs.Ledger.Pairing
import SessionLedger.Proofs.Session.Sparing
import SessionLedger.Proofs.Ledger.Rotation
import SessionLedger.Proofs.Ledger.Leftover
import SessionLedger.Proofs.Session.Calls
import SessionLedger.Proofs.World.Lone
import SessionLedger.Proofs.World.Preserved
import SessionLedger.Proofs.Ledger.Verdict
import SessionLedger.Proofs.Ledger.Intact
import SessionLedger.Proofs.Time.Rfc3339
import SessionLedger.Proofs.Json.List
import SessionLedger.Proofs.User.Snapshot
import SessionLedger.Proofs.Session.Profiles
import SessionLedger.Proofs.Traffic.Row
import SessionLedger.Proofs.Ledger.Profile
import SessionLedger.Proofs.Ledger.Coherence
import SessionLedger.Proofs.Text.Uuid
import SessionLedger.Proofs.Config.Accepted
import SessionLedger.Proofs.Session.Namespaces
import SessionLedger.Proofs.Ledger.Window
import SessionLedger.Proofs.Http.LoginFailure
import SessionLedger.Proofs.Token.Issued
import SessionLedger.Proofs.Token.Genuine
import SessionLedger.Proofs.Ledger.Kinds
import SessionLedger.Proofs.Program.Heeds
import SessionLedger.Proofs.Session.Outage
import SessionLedger.Proofs.Session.Evidence
import SessionLedger.Proofs.World.Story
import SessionLedger.Proofs.Http.Response
import SessionLedger.Proofs.Http.Outage
import SessionLedger.Proofs.User.Directory
import SessionLedger.Proofs.Store.Answer
import SessionLedger.Proofs.World.Sound
import SessionLedger.Proofs.Ledger.Login
import SessionLedger.Proofs.World.Exchanges
import SessionLedger.Proofs.Ledger.ReadThrough
import SessionLedger.Proofs.Ledger.KeptSnapshot
import SessionLedger.Proofs.Store.Timed
import SessionLedger.Proofs.Store.Distinct
import SessionLedger.Proofs.World.TimedMap
import SessionLedger.Proofs.Ledger.CutOff
import SessionLedger.Proofs.Config.Masked
import SessionLedger.Proofs.Config.Secrets
import SessionLedger.Proofs.Text.Pieces
import SessionLedger.Proofs.Http.Origins
import SessionLedger.Proofs.Session.Hashes
import SessionLedger.Proofs.World.Hashes
import SessionLedger.Proofs.World.Unseen
import SessionLedger.Proofs.Text.Trim
import SessionLedger.Proofs.User.Permissions
