import Invoicing.Calendar.Date
import Invoicing.Calendar.Decode
import Invoicing.Calendar.Instant
import Invoicing.Calendar.Lenient
import Invoicing.Config.Dotenv
import Invoicing.Config.Grammar
import Invoicing.Config.Ini
import Invoicing.Config.Json5
import Invoicing.Config.Load
import Invoicing.Config.Ron
import Invoicing.Config.Setting
import Invoicing.Decimal.Arith
import Invoicing.Decimal.Basic
import Invoicing.Decimal.Decode
import Invoicing.Decimal.Text
import Invoicing.Decode.Basic
import Invoicing.Decode.Error
import Invoicing.Decode.Json
import Invoicing.Email
import Invoicing.Error
import Invoicing.Http.Message
import Invoicing.Http.Query
import Invoicing.Http.Router
import Invoicing.Idna.Ascii
import Invoicing.Idna.Mapping
import Invoicing.Json.Binary64
import Invoicing.Json.Token
import Invoicing.Json.Value
import Invoicing.Launch
import Invoicing.Lifecycle
import Invoicing.Logging
import Invoicing.Metrics
import Invoicing.Model.Account
import Invoicing.Model.Client
import Invoicing.Model.Invoice
import Invoicing.Net.SocketAddress
import Invoicing.Net.Uri
import Invoicing.Numbering
import Invoicing.Page
import Invoicing.Pricing
import Invoicing.Printout.Basic
import Invoicing.Printout.Invoice
import Invoicing.Proofs.DecimalValue
import Invoicing.Proofs.Drafts
import Invoicing.Proofs.Lifecycle
import Invoicing.Proofs.PricingExact
import Invoicing.Proofs.Run
import Invoicing.Proofs.Statements
import Invoicing.Request.Invoice
import Invoicing.Request.Party
import Invoicing.Service.Basic
import Invoicing.Service.Invoices
import Invoicing.Service.Parties
import Invoicing.Startup
import Invoicing.Status
import Invoicing.Store.Accounts
import Invoicing.Store.Basic
import Invoicing.Store.Clients
import Invoicing.Store.Column
import Invoicing.Store.Invoices
import Invoicing.Text.Alphanumeric
import Invoicing.Text.Bidi
import Invoicing.Text.Blank
import Invoicing.Text.Capitals
import Invoicing.Text.Categories
import Invoicing.Text.Escaped
import Invoicing.Text.Marks
import Invoicing.Text.Punycode
import Invoicing.Text.Table
import Invoicing.Text.Utf8
import Invoicing.Text.WinAnsi
import Invoicing.Toml.Document
import Invoicing.Toml.Lexical
import Invoicing.Toml.Parser
import Invoicing.Toml.Value
import Invoicing.Uuid
import Invoicing.Validation
import Invoicing.Yaml.Events
import Invoicing.Yaml.Node
import Invoicing.Yaml.Scanner
import Invoicing.Proofs.Session
import Invoicing.Proofs.Integrity
import Invoicing.Proofs.Balance
import Invoicing.Proofs.Numbering
import Invoicing.Proofs.Failures
import Invoicing.Proofs.Statuses
import Invoicing.Proofs.Writes
import Invoicing.Proofs.Quota
import Invoicing.Proofs.Listing
import Invoicing.Proofs.Ownership
import Invoicing.Proofs.Answers
import Invoicing.Proofs.Tenancy
import Invoicing.Proofs.Calendar
import Invoicing.Proofs.Capitals
import Invoicing.Proofs.Repricing
import Invoicing.Proofs.Reissuable
import Invoicing.Proofs.Deactivation
import Invoicing.Proofs.Gateway
import Invoicing.Proofs.PricingFormulas
import Invoicing.Proofs.PricingValues
import Invoicing.Proofs.Creation
import Invoicing.Proofs.Revision
import Invoicing.Proofs.Dates
import Invoicing.Proofs.StatusChange
import Invoicing.Proofs.Statistics
