import RelyingParty.Algorithm
import RelyingParty.Base64Url
import RelyingParty.Basic
import RelyingParty.Binary64
import RelyingParty.Claims
import RelyingParty.Claims.IdToken
import RelyingParty.Claims.Validation
import RelyingParty.Crypto.Aes
import RelyingParty.Crypto.Curve
import RelyingParty.Crypto.Ed25519
import RelyingParty.Crypto.Gcm
import RelyingParty.Crypto.Rsa
import RelyingParty.Crypto.Sha2
import RelyingParty.Http.Message
import RelyingParty.Http.Status
import RelyingParty.Http.Uri
import RelyingParty.Json.Number
import RelyingParty.Json.Reading
import RelyingParty.Json.Record
import RelyingParty.Json.Text
import RelyingParty.Json.Token
import RelyingParty.Json.Tree
import RelyingParty.Json.Value
import RelyingParty.Key
import RelyingParty.Key.Decryption
import RelyingParty.Key.Signature
import RelyingParty.KeySet
import RelyingParty.KeySet.Fetch
import RelyingParty.KeySource
import RelyingParty.Named
import RelyingParty.Policy
import RelyingParty.Registration.Client
import RelyingParty.Registration.Provider
import RelyingParty.Time
import RelyingParty.Token
import RelyingParty.Token.Header
import RelyingParty.Unicode.CodeTable
import RelyingParty.Unicode.CombiningClass
import RelyingParty.Unicode.Composition
import RelyingParty.Unicode.Direction
import RelyingParty.Unicode.Joining
import RelyingParty.Unicode.Mark
import RelyingParty.Unicode.Normal
import RelyingParty.Url
import RelyingParty.Url.Domain
import RelyingParty.Url.Fold
import RelyingParty.Url.Fold.Refused
import RelyingParty.Url.Fold.Spelled
import RelyingParty.Url.Host
import RelyingParty.Url.Percent
import RelyingParty.Url.Punycode
import RelyingParty.Verification.Fault
import RelyingParty.Verification.Selector
import RelyingParty.Verifier
import RelyingParty.Proofs.Base64Url
import RelyingParty.Proofs.Binary64
import RelyingParty.Proofs.Bytes
import RelyingParty.Proofs.Checked
import RelyingParty.Proofs.Claims.Agreement
import RelyingParty.Proofs.Claims.Decision
import RelyingParty.Proofs.Claims.IdToken
import RelyingParty.Proofs.Claims.NormalForm
import RelyingParty.Proofs.Claims.Timestamp
import RelyingParty.Proofs.Claims.Validation
import RelyingParty.Proofs.Crypto.Aes
import RelyingParty.Proofs.Crypto.Gcm
import RelyingParty.Proofs.Http.ContentType
import RelyingParty.Proofs.Json.Document
import RelyingParty.Proofs.Json.Elements
import RelyingParty.Proofs.Json.Members
import RelyingParty.Proofs.Json.Number
import RelyingParty.Proofs.Json.Ordered
import RelyingParty.Proofs.Json.Record
import RelyingParty.Proofs.Json.Repetition
import RelyingParty.Proofs.Json.Stable
import RelyingParty.Proofs.Json.Value
import RelyingParty.Proofs.Key.Document
import RelyingParty.Proofs.Key.Fields
import RelyingParty.Proofs.Key.Members
import RelyingParty.Proofs.Key.Purpose
import RelyingParty.Proofs.KeySet.Elements
import RelyingParty.Proofs.KeySet.Fetch
import RelyingParty.Proofs.KeySource.Caching
import RelyingParty.Proofs.Named
import RelyingParty.Proofs.Policy.Resolution
import RelyingParty.Proofs.Registration.Client
import RelyingParty.Proofs.Registration.Documents
import RelyingParty.Proofs.Registration.Elements
import RelyingParty.Proofs.Registration.Provider
import RelyingParty.Proofs.Time.Conversion
import RelyingParty.Proofs.Time.Instant
import RelyingParty.Proofs.Token.Compact
import RelyingParty.Proofs.Token.Declared
import RelyingParty.Proofs.Token.Document
import RelyingParty.Proofs.Token.Fields
import RelyingParty.Proofs.Token.Repetition
import RelyingParty.Proofs.Token.Writing
import RelyingParty.Proofs.Url
import RelyingParty.Proofs.Verification.Authenticity
import RelyingParty.Proofs.Verification.Consultation
import RelyingParty.Proofs.Verification.Extension
import RelyingParty.Proofs.Verification.Nesting
import RelyingParty.Proofs.Verification.Outcome
import RelyingParty.Proofs.Verification.Payload
import RelyingParty.Proofs.Verification.Preselection
import RelyingParty.Proofs.Verification.Repetition
import RelyingParty.Proofs.Verification.Selector
import RelyingParty.Proofs.Verification.Tampering
import RelyingParty.Proofs.Verification.Unsecured
