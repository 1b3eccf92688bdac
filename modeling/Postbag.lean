import Postbag.Main
import Postbag.Script
import Postbag.Proofs.Failure.Classification
import Postbag.Proofs.Text.Numbers
import Postbag.Proofs.Stream.Delivery
import Postbag.Proofs.Stream.Protocol
import Postbag.Proofs.Imap.Reduction
import Postbag.Proofs.Imap.Regular
import Postbag.Proofs.Stream.Release
import Postbag.Proofs.Wire.Answers
import Postbag.Proofs.Wire.Calls
import Postbag.Proofs.Wire.Rejection
import Postbag.Proofs.Failure.Unparsable
import Postbag.Proofs.Stream.Cancellation
import Postbag.Proofs.Imap.Written
import Postbag.Proofs.Wire.Loss
import Postbag.Proofs.Wire.Listing
import Postbag.Proofs.Failure.Shows
import Postbag.Proofs.Failure.Wrapping
import Postbag.Proofs.Stream.Endings
import Postbag.Proofs.Wire.Consent
import Postbag.Proofs.Wire.Opening
import Postbag.Proofs.Wire.Upgrade
import Postbag.Proofs.Bytes.Utf8
import Postbag.Proofs.Imap.Request
import Postbag.Proofs.Stream.Disclosure
import Postbag.Proofs.Wire.Lines
import Postbag.Proofs.Cli.Documents
import Postbag.Proofs.Stream.Consumers
import Postbag.Proofs.Wire.Later
import Postbag.Proofs.Wire.Secrecy
import Postbag.Proofs.Cli.Printed
import Postbag.Proofs.Stream.FailedRelease
import Postbag.Proofs.Wire.Gathering
import Postbag.Proofs.Cli.Limit
import Postbag.Proofs.Cli.Table
import Postbag.Proofs.Config.Lookup
import Postbag.Proofs.Imap.Complaints
import Postbag.Proofs.Imap.Letters
import Postbag.Proofs.Wire.Correspondence
import Postbag.Proofs.Config.Precedence
import Postbag.Proofs.Date.Calendar
import Postbag.Proofs.Date.Written
import Postbag.Proofs.Bytes.Base64
import Postbag.Proofs.Bytes.QuotedPrintable
import Postbag.Proofs.Header.Words
import Postbag.Proofs.Cli.Columns
import Postbag.Proofs.Failure.Rendering
