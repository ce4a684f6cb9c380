import Faultline.Classification
import Faultline.Decimal.Basic
import Faultline.Decimal.Floating
import Faultline.Decimal.Nearest
import Faultline.Decimal.Stepwise
import Faultline.Description
import Faultline.Environment
import Faultline.ErrorCode
import Faultline.Fault.AppError
import Faultline.Fault.Basic
import Faultline.Http.Headers
import Faultline.Http.Uri
import Faultline.Journal
import Faultline.Json.Basic
import Faultline.Json.Mismatch
import Faultline.Json.Printer
import Faultline.Json.Reader
import Faultline.LogFilter.Basic
import Faultline.LogFilter.Directive
import Faultline.LogFilter.Pattern.Reading
import Faultline.LogFilter.Pattern.Syntax
import Faultline.LogFilter.Pattern.Validity
import Faultline.Mapper.Basic
import Faultline.Mapper.BuiltIn
import Faultline.Mapper.Registry
import Faultline.Pipeline.Assembly
import Faultline.Pipeline.Basic
import Faultline.Pipeline.Guard
import Faultline.Problem.Basic
import Faultline.Problem.Builder
import Faultline.Problem.Limits
import Faultline.Problem.Wire
import Faultline.Proofs.Disclosure.Decision
import Faultline.Proofs.Disclosure.Indistinct
import Faultline.Proofs.Disclosure.Noninterference
import Faultline.Proofs.Fault.FieldErrors
import Faultline.Proofs.Fault.StackTrace
import Faultline.Proofs.Http.Headers
import Faultline.Proofs.Journal
import Faultline.Proofs.Json.Members
import Faultline.Proofs.Json.Numbers
import Faultline.Proofs.Json.RoundTrip
import Faultline.Proofs.Json.Shape
import Faultline.Proofs.Json.Strings
import Faultline.Proofs.Mapper.Alarms
import Faultline.Proofs.Mapper.BuiltIn
import Faultline.Proofs.Mapper.Degradation
import Faultline.Proofs.Mapper.Document
import Faultline.Proofs.Mapper.Order
import Faultline.Proofs.Mapper.Resolution
import Faultline.Proofs.Mapper.Status
import Faultline.Proofs.Pipeline.Agreement
import Faultline.Proofs.Pipeline.Alarms
import Faultline.Proofs.Pipeline.Answer
import Faultline.Proofs.Pipeline.Assembly
import Faultline.Proofs.Pipeline.Choices
import Faultline.Proofs.Pipeline.Extensions
import Faultline.Proofs.Pipeline.FieldMessages
import Faultline.Proofs.Pipeline.Freshness
import Faultline.Proofs.Pipeline.Handling
import Faultline.Proofs.Pipeline.Identity
import Faultline.Proofs.Pipeline.Process
import Faultline.Proofs.Pipeline.Quiet
import Faultline.Proofs.Pipeline.Session
import Faultline.Proofs.Pipeline.Status
import Faultline.Proofs.Pipeline.Table
import Faultline.Proofs.Problem.Decoding
import Faultline.Proofs.Problem.Draft
import Faultline.Proofs.Problem.History
import Faultline.Proofs.Problem.Limits
import Faultline.Proofs.Problem.Members
import Faultline.Proofs.Problem.Reached
import Faultline.Proofs.Problem.Relaxation
import Faultline.Proofs.Problem.RoundTrip
import Faultline.Proofs.Problem.Settled
import Faultline.Proofs.Request.Grammar
import Faultline.Proofs.Request.Propagation
import Faultline.Proofs.Request.TraceId
import Faultline.Proofs.Request.Traceparent
import Faultline.Proofs.Response.Delivery
import Faultline.Proofs.Response.Exchange
import Faultline.Proofs.Response.Formatting
import Faultline.Proofs.Response.Head
import Faultline.Proofs.Response.Repeated
import Faultline.Proofs.Settings.Decoding
import Faultline.Proofs.Settings.Layers
import Faultline.Proofs.Settings.Loading
import Faultline.Proofs.Settings.Naming
import Faultline.Proofs.Settings.Records
import Faultline.Proofs.Settings.Schema
import Faultline.Proofs.Settings.Sources
import Faultline.Proofs.Settings.Stack
import Faultline.Proofs.Settings.Tables
import Faultline.Proofs.Telemetry.Attributes
import Faultline.Proofs.Telemetry.Modes
import Faultline.Proofs.Telemetry.NormalForm
import Faultline.Proofs.Telemetry.Normalize
import Faultline.Proofs.Telemetry.Plan
import Faultline.Proofs.Telemetry.Runs
import Faultline.Proofs.Telemetry.Sources
import Faultline.Proofs.Text.Breaks
import Faultline.Proofs.Text.Bytes
import Faultline.Proofs.Text.Lines
import Faultline.Proofs.Text.Plain
import Faultline.Proofs.Text.Trim
import Faultline.Proofs.Uuid
import Faultline.Request.Context
import Faultline.Request.Traceparent
import Faultline.Response.Delivery
import Faultline.Response.Formatting
import Faultline.Sanitizer
import Faultline.Settings.Basic
import Faultline.Settings.Decoding
import Faultline.Settings.Layers
import Faultline.Settings.Loading
import Faultline.Settings.Scalar
import Faultline.Settings.Setting
import Faultline.Settings.Variables
import Faultline.Status
import Faultline.Telemetry.Attributes
import Faultline.Telemetry.Plan
import Faultline.Telemetry.Span
import Faultline.Text.Alphanumeric
import Faultline.Text.Ascii
import Faultline.Text.Blank
import Faultline.Text.Bytes
import Faultline.Text.Lines
import Faultline.Text.Numeral
import Faultline.Text.Quoted
import Faultline.Text.Visible
import Faultline.Uuid
import Faultline.Yaml.Node
import Faultline.Yaml.Place
import Faultline.Yaml.Reading
import Faultline.Yaml.Scalar
import Faultline.Yaml.Token
