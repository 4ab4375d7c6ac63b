import Gatehouse.Account
import Gatehouse.Audit
import Gatehouse.Cache
import Gatehouse.Cache.Address
import Gatehouse.Call
import Gatehouse.Choice
import Gatehouse.Claims
import Gatehouse.Decimal.Rounding
import Gatehouse.Decimal.Shortest
import Gatehouse.Digest.Argon2
import Gatehouse.Digest.Blake2b
import Gatehouse.Digest.Hmac
import Gatehouse.Digest.Sha512
import Gatehouse.Digest.Words
import Gatehouse.Encoding.Base64
import Gatehouse.Encoding.Hex
import Gatehouse.Fault
import Gatehouse.Guard
import Gatehouse.Handlers.Auth
import Gatehouse.Handlers.Roles
import Gatehouse.Http
import Gatehouse.Http.Path
import Gatehouse.Identifier
import Gatehouse.Json.Attempt
import Gatehouse.Json.Codec
import Gatehouse.Json.Mismatch
import Gatehouse.Json.Printer
import Gatehouse.Json.Reader
import Gatehouse.Json.Record
import Gatehouse.Json.Value
import Gatehouse.Json.Written
import Gatehouse.Ordered.Map
import Gatehouse.Ordered.Set
import Gatehouse.Password
import Gatehouse.Password.Phc
import Gatehouse.Permissions
import Gatehouse.Policy.Engine
import Gatehouse.Policy.Grants
import Gatehouse.Policy.Tuple
import Gatehouse.Registry
import Gatehouse.Request
import Gatehouse.Role
import Gatehouse.Routine
import Gatehouse.Rule
import Gatehouse.Session
import Gatehouse.Settings
import Gatehouse.Settings.Kind
import Gatehouse.Settings.Setting
import Gatehouse.Simulation
import Gatehouse.Site
import Gatehouse.Status
import Gatehouse.Text.Blank
import Gatehouse.Text.CaseTable
import Gatehouse.Text.Lowercase
import Gatehouse.Text.Quoted
import Gatehouse.Text.Unprintable
import Gatehouse.Text.Utf8
import Gatehouse.Time.Calendar
import Gatehouse.Time.Moment
import Gatehouse.Time.Span
import Gatehouse.Token.Codec
import Gatehouse.Token.Header
import Gatehouse.Token.Key
import Gatehouse.Token.Pair
import Gatehouse.Token.Payload
import Gatehouse.Token.Service
import Gatehouse.Toml.Document
import Gatehouse.Toml.Scalar
import Gatehouse.Toml.Value
import Gatehouse.Proofs.Execution.Alone
import Gatehouse.Proofs.Ordered.Members
import Gatehouse.Proofs.Policy.Grants
import Gatehouse.Proofs.Policy.Agreement
import Gatehouse.Proofs.Guard.Decision
import Gatehouse.Proofs.Handlers.Roles
import Gatehouse.Proofs.Guard.SelfGrant
import Gatehouse.Proofs.Execution.Disciplines
import Gatehouse.Proofs.Execution.Procedures
import Gatehouse.Proofs.Execution.Keeping
import Gatehouse.Proofs.Json.Strings
import Gatehouse.Proofs.Json.Integers
import Gatehouse.Proofs.Json.NumberTexts
import Gatehouse.Proofs.Json.StringTexts
import Gatehouse.Proofs.Json.Tokens
import Gatehouse.Proofs.Json.Grammar
import Gatehouse.Proofs.Json.Attempts
import Gatehouse.Proofs.Json.RoundTrip
import Gatehouse.Proofs.Json.Records
import Gatehouse.Proofs.Json.Shown
import Gatehouse.Proofs.Json.Codecs
import Gatehouse.Proofs.Json.Restored
import Gatehouse.Proofs.Rule.Encoding
import Gatehouse.Proofs.Execution.Surroundings
import Gatehouse.Proofs.Guard.Watch
import Gatehouse.Proofs.Guard.Licence
import Gatehouse.Proofs.Handlers.Watched
import Gatehouse.Proofs.Guard.History
import Gatehouse.Proofs.Execution.Interleaving
import Gatehouse.Proofs.Policy.Turns
import Gatehouse.Proofs.Policy.Serial
import Gatehouse.Proofs.Policy.Contention
import Gatehouse.Proofs.Time.Calendar
import Gatehouse.Proofs.Time.Stamps
import Gatehouse.Proofs.Cache.Entries
import Gatehouse.Proofs.Permissions.Calls
import Gatehouse.Proofs.Permissions.Loads
import Gatehouse.Proofs.Permissions.Served
import Gatehouse.Proofs.Permissions.Invalidated
import Gatehouse.Proofs.Encoding.Base64
import Gatehouse.Proofs.Token.ClaimTexts
import Gatehouse.Proofs.Token.Payloads
import Gatehouse.Proofs.Token.Signing
import Gatehouse.Proofs.Token.Calls
import Gatehouse.Proofs.Token.Tracked
import Gatehouse.Proofs.Token.SingleUse
import Gatehouse.Proofs.Password.Grammar
import Gatehouse.Proofs.Password.HashTexts
import Gatehouse.Proofs.Token.Verification
import Gatehouse.Proofs.Execution.Interference
import Gatehouse.Proofs.Token.Issuing
import Gatehouse.Proofs.Text.Order
import Gatehouse.Proofs.Policy.Listing
import Gatehouse.Proofs.Handlers.RoleBook
import Gatehouse.Proofs.Handlers.BookKeeping
import Gatehouse.Proofs.Execution.Fixtures
import Gatehouse.Proofs.Account.Standing
import Gatehouse.Proofs.Account.Deletion
import Gatehouse.Proofs.Token.Lifetimes
import Gatehouse.Proofs.Audit.Recording
import Gatehouse.Proofs.Audit.Trail
import Gatehouse.Proofs.Permissions.Failures
import Gatehouse.Proofs.Guard.Failures
import Gatehouse.Proofs.Cache.History
import Gatehouse.Proofs.Cache.Sharing
import Gatehouse.Proofs.Execution.Separation
import Gatehouse.Proofs.Execution.Stages
import Gatehouse.Proofs.Permissions.Journeys
import Gatehouse.Proofs.Permissions.Flights
import Gatehouse.Proofs.Permissions.Sharing
import Gatehouse.Proofs.Token.Audience
import Gatehouse.Proofs.Call.Credentials
import Gatehouse.Proofs.Token.Presented
import Gatehouse.Proofs.Guard.Roleless
import Gatehouse.Proofs.Text.NormalForm
import Gatehouse.Proofs.Handlers.NormalNames
import Gatehouse.Proofs.Settings.Ranges
import Gatehouse.Proofs.Execution.Courses
import Gatehouse.Proofs.Guard.Course
import Gatehouse.Proofs.Http.Answers
import Gatehouse.Proofs.Audit.Passwords
import Gatehouse.Proofs.Rule.Newest
import Gatehouse.Proofs.Rule.Standing
import Gatehouse.Proofs.Settings.Texts
import Gatehouse.Proofs.Settings.Overrides
import Gatehouse.Proofs.Settings.Startup
import Gatehouse.Proofs.Token.Renewal
import Gatehouse.Proofs.Policy.Histories
import Gatehouse.Proofs.Encoding.Records
import Gatehouse.Proofs.Text.Lenient
import Gatehouse.Proofs.Audit.Headers
import Gatehouse.Proofs.Handlers.Payloads
import Gatehouse.Proofs.Identifier.Spellings
