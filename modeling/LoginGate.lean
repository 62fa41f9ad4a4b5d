import LoginGate.Base64.Basic
import LoginGate.Base64.Canonical
import LoginGate.Breakdown
import LoginGate.Bytes
import LoginGate.Compression.Crc32
import LoginGate.Compression.Gzip
import LoginGate.Compression.Inflate
import LoginGate.Cookie.Basic
import LoginGate.Cookie.Cipher
import LoginGate.Cookie.Key
import LoginGate.Crypto.Aes
import LoginGate.Crypto.Edwards
import LoginGate.Crypto.Gcm
import LoginGate.Crypto.Hmac
import LoginGate.Crypto.Keccak
import LoginGate.Crypto.Rsa
import LoginGate.Crypto.Sha2
import LoginGate.Crypto.Weierstrass
import LoginGate.Denial
import LoginGate.Entropy
import LoginGate.Gate.Basic
import LoginGate.Gate.Course
import LoginGate.Gate.Decision
import LoginGate.Gate.Fault
import LoginGate.Gate.Grant
import LoginGate.Gate.Login
import LoginGate.Gate.Startup
import LoginGate.Gate.Step
import LoginGate.Groups
import LoginGate.Http.Agent
import LoginGate.Http.Answer
import LoginGate.Http.Request
import LoginGate.Json.Basic
import LoginGate.Json.Display
import LoginGate.Json.Encoding
import LoginGate.Json.Parser
import LoginGate.Json.Printer
import LoginGate.Json.Schema
import LoginGate.Jwt.Claims
import LoginGate.Jwt.Document
import LoginGate.Jwt.Fault
import LoginGate.Jwt.Key
import LoginGate.Jwt.KeySet
import LoginGate.Jwt.KeyStore
import LoginGate.Jwt.Segment
import LoginGate.Jwt.Signature
import LoginGate.Jwt.Verifier
import LoginGate.Numeral.Binary64
import LoginGate.Numeral.Read
import LoginGate.Numeral.Shortest
import LoginGate.Pattern.Basic
import LoginGate.Pattern.Fault
import LoginGate.Pattern.Matcher
import LoginGate.Pattern.Reader
import LoginGate.Platform
import LoginGate.Proofs.Base64.RoundTrip
import LoginGate.Proofs.Base64.Spelling
import LoginGate.Proofs.Base64.Strict
import LoginGate.Proofs.Compression.Members
import LoginGate.Proofs.Compression.RoundTrip
import LoginGate.Proofs.Cookie.Cipher
import LoginGate.Proofs.Gate.Address
import LoginGate.Proofs.Gate.Admission
import LoginGate.Proofs.Gate.Aftermath
import LoginGate.Proofs.Gate.Authenticity
import LoginGate.Proofs.Gate.Binding
import LoginGate.Proofs.Gate.Completion
import LoginGate.Proofs.Gate.Contact
import LoginGate.Proofs.Gate.Cookies
import LoginGate.Proofs.Gate.Course
import LoginGate.Proofs.Gate.Credentials
import LoginGate.Proofs.Gate.Decided
import LoginGate.Proofs.Gate.Denied
import LoginGate.Proofs.Gate.Draws
import LoginGate.Proofs.Gate.Ends
import LoginGate.Proofs.Gate.Grant
import LoginGate.Proofs.Gate.History
import LoginGate.Proofs.Gate.Jar
import LoginGate.Proofs.Gate.Lifetime
import LoginGate.Proofs.Gate.Named
import LoginGate.Proofs.Gate.Publication
import LoginGate.Proofs.Gate.Renewable
import LoginGate.Proofs.Gate.Renewal
import LoginGate.Proofs.Gate.Secrecy
import LoginGate.Proofs.Gate.Setup
import LoginGate.Proofs.Gate.Stale
import LoginGate.Proofs.Gate.Startup
import LoginGate.Proofs.Gate.Trust
import LoginGate.Proofs.Gate.Unforged
import LoginGate.Proofs.Groups.Latest
import LoginGate.Proofs.Groups.Replay
import LoginGate.Proofs.Groups.Upkeep
import LoginGate.Proofs.Json.RoundTrip
import LoginGate.Proofs.Json.Schema
import LoginGate.Proofs.Jwt.Breakdown
import LoginGate.Proofs.Jwt.Claims
import LoginGate.Proofs.Jwt.Header
import LoginGate.Proofs.Jwt.Profile
import LoginGate.Proofs.Jwt.Provenance
import LoginGate.Proofs.Jwt.Retries
import LoginGate.Proofs.Jwt.Segments
import LoginGate.Proofs.Jwt.Soundness
import LoginGate.Proofs.Jwt.Verdict
import LoginGate.Proofs.Numeral.Decimal
import LoginGate.Proofs.Pattern.Language
import LoginGate.Proofs.Provider.TokenEndpoint
import LoginGate.Proofs.Result
import LoginGate.Proofs.Session.Alteration
import LoginGate.Proofs.Session.Decoding
import LoginGate.Proofs.Session.Documents
import LoginGate.Proofs.Session.RoundTrip
import LoginGate.Proofs.Session.Separation
import LoginGate.Proofs.Settings.Breakdown
import LoginGate.Proofs.Settings.Checked
import LoginGate.Proofs.Settings.OpenFiles
import LoginGate.Proofs.Settings.Overlay
import LoginGate.Proofs.Settings.Scopes
import LoginGate.Proofs.Settings.Usable
import LoginGate.Proofs.Site.Bypass
import LoginGate.Proofs.Site.Cookies
import LoginGate.Proofs.Site.Simulation
import LoginGate.Proofs.Text.Ascii
import LoginGate.Proofs.Text.Blank
import LoginGate.Proofs.Text.NameMap
import LoginGate.Proofs.Text.Runs
import LoginGate.Proofs.Time.Civil
import LoginGate.Proofs.Time.RoundTrip
import LoginGate.Proofs.Url.Form
import LoginGate.Provider.Discovery
import LoginGate.Provider.Metadata
import LoginGate.Provider.TokenAnswer
import LoginGate.Provider.TokenEndpoint
import LoginGate.Session.Basic
import LoginGate.Session.CookieValue
import LoginGate.Session.Identity
import LoginGate.Session.LoginAttempt
import LoginGate.Session.Packing
import LoginGate.Settings.Basic
import LoginGate.Settings.Cookies
import LoginGate.Settings.Parameter
import LoginGate.Settings.Support
import LoginGate.Site.Answer
import LoginGate.Site.Basic
import LoginGate.Site.CookieHeader
import LoginGate.Site.Request
import LoginGate.Site.SetCookie
import LoginGate.Text.Blank
import LoginGate.Text.CharSet
import LoginGate.Text.Charset
import LoginGate.Text.CodePage
import LoginGate.Text.CodeString
import LoginGate.Text.Digit
import LoginGate.Text.LetterCase
import LoginGate.Text.LowerCase
import LoginGate.Text.NameMap
import LoginGate.Text.Printable
import LoginGate.Text.Quoted
import LoginGate.Text.Utf8
import LoginGate.Text.WordChar
import LoginGate.Time.Civil
import LoginGate.Time.Reader
import LoginGate.Time.Timestamp
import LoginGate.Url.Form
import LoginGate.Url.Host
import LoginGate.Url.Percent
import LoginGate.Url.Punycode
import LoginGate.Url.Reference
import LoginGate.Url.Target
import LoginGate.Url.Web
