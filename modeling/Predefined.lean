import Predefined.Double.Arithmetic
import Predefined.Encoding.Base64
import Predefined.Encoding.Charset
import Predefined.Encoding.Form
import Predefined.Value.Basic
import Predefined.Function.Table
import Predefined.LogRecord
import Predefined.Function.Catalogue
import Predefined.Settings
import Predefined.Dictionary
import Predefined.Unicode.CharSet
import Predefined.Unicode.Case
import Predefined.Unicode.Script
import Predefined.Value.Arithmetic
import Predefined.Value.Coding
import Predefined.Value.Conversion
import Predefined.Value.Text
import Predefined.Context
import Predefined.Text.Pieces
import Predefined.Expr.Evaluation
import Predefined.Main
import Predefined.Proofs.Plan
import Predefined.Proofs.Agreement
import Predefined.Proofs.Session
import Predefined.Proofs.Failure
import Predefined.Proofs.Trace
import Predefined.Proofs.Conformance
import Predefined.Proofs.Signatures
import Predefined.Proofs.FunctionFailure
import Predefined.Proofs.Routing
import Predefined.Proofs.Purity
import Predefined.Proofs.FormCoding
import Predefined.Proofs.Base64
import Predefined.Proofs.Digits
import Predefined.Proofs.Rounding
import Predefined.Proofs.DoubleText
import Predefined.Proofs.Conversions
import Predefined.Proofs.CommandLine
import Predefined.Proofs.Vault
import Predefined.Proofs.JsonString
import Predefined.Proofs.JsonText
import Predefined.Proofs.JsonValue
import Predefined.Proofs.Arguments
import Predefined.Proofs.Wording
import Predefined.Proofs.Disclosure
import Predefined.Proofs.History
import Predefined.Proofs.JsonRecord
import Predefined.Proofs.ContextDocument
import Predefined.Proofs.Documents
import Predefined.Proofs.Folding
import Predefined.Proofs.Charsets
import Predefined.Proofs.PlainPattern
import Predefined.Proofs.Separators
import Predefined.Proofs.HalfUp
import Predefined.Proofs.Slices
import Predefined.Proofs.Replacement
import Predefined.Proofs.Relaxation
import Predefined.Proofs.IntegerText
import Predefined.Proofs.NearestEven
import Predefined.Proofs.CanonicalBase64
import Predefined.Proofs.Precedence
