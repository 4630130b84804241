import RequestDispatch.AccessLog
import RequestDispatch.App
import RequestDispatch.Binding
import RequestDispatch.ByteStream
import RequestDispatch.CommandLine
import RequestDispatch.Config
import RequestDispatch.Context.Handle
import RequestDispatch.Context.Store
import RequestDispatch.Context.WellKnown
import RequestDispatch.Demo.App
import RequestDispatch.Demo.Tasks
import RequestDispatch.Dictionary
import RequestDispatch.Dispatcher
import RequestDispatch.Handler.Program
import RequestDispatch.Handler.Run
import RequestDispatch.Http.Cookie
import RequestDispatch.Http.Form
import RequestDispatch.Http.Header
import RequestDispatch.Http.Method
import RequestDispatch.Http.Wire
import RequestDispatch.Json.Data
import RequestDispatch.Json.Draft
import RequestDispatch.Json.Printer
import RequestDispatch.Json.Problem
import RequestDispatch.Json.Typed
import RequestDispatch.Json.Value
import RequestDispatch.Log.Filter
import RequestDispatch.Log.Settings
import RequestDispatch.Main
import RequestDispatch.Middleware
import RequestDispatch.Number.Double
import RequestDispatch.Proofs.AccessLog
import RequestDispatch.Proofs.Binding
import RequestDispatch.Proofs.ByteStream
import RequestDispatch.Proofs.Config
import RequestDispatch.Proofs.Context.History
import RequestDispatch.Proofs.Context.Isolation
import RequestDispatch.Proofs.Context.Lifetime
import RequestDispatch.Proofs.Context.Lookup
import RequestDispatch.Proofs.Context.Owners
import RequestDispatch.Proofs.Context.Since
import RequestDispatch.Proofs.Context.Store
import RequestDispatch.Proofs.Context.WellKnown
import RequestDispatch.Proofs.Dictionary
import RequestDispatch.Proofs.Dispatcher.Course
import RequestDispatch.Proofs.Dispatcher.Entrance
import RequestDispatch.Proofs.Dispatcher.Failures
import RequestDispatch.Proofs.Dispatcher.Leaving
import RequestDispatch.Proofs.Dispatcher.Release
import RequestDispatch.Proofs.Dispatcher.Targets
import RequestDispatch.Proofs.Handler.Run
import RequestDispatch.Proofs.Handler.Steps
import RequestDispatch.Proofs.Http.Cookies
import RequestDispatch.Proofs.Http.Form
import RequestDispatch.Proofs.Http.HeaderLines
import RequestDispatch.Proofs.Http.HeaderSet
import RequestDispatch.Proofs.Http.Metadata
import RequestDispatch.Proofs.Http.UpstreamId
import RequestDispatch.Proofs.Json.Reading
import RequestDispatch.Proofs.Json.Typed
import RequestDispatch.Proofs.Lookup
import RequestDispatch.Proofs.Outcome
import RequestDispatch.Proofs.Regex.Greedy
import RequestDispatch.Proofs.Regex.GroupNames
import RequestDispatch.Proofs.Regex.Reading
import RequestDispatch.Proofs.Regex.ReadingBody
import RequestDispatch.Proofs.Regex.ReadingSets
import RequestDispatch.Proofs.Regex.Run
import RequestDispatch.Proofs.Request
import RequestDispatch.Proofs.RequestId
import RequestDispatch.Proofs.Response
import RequestDispatch.Proofs.Route.Anchoring
import RequestDispatch.Proofs.Route.Arguments
import RequestDispatch.Proofs.Route.Assignment
import RequestDispatch.Proofs.Route.Capture
import RequestDispatch.Proofs.Route.Copying
import RequestDispatch.Proofs.Route.Filling
import RequestDispatch.Proofs.Route.Limits
import RequestDispatch.Proofs.Route.Methods
import RequestDispatch.Proofs.Route.Namespaces
import RequestDispatch.Proofs.Route.OwnAnchors
import RequestDispatch.Proofs.Route.Registering
import RequestDispatch.Proofs.Route.Spelling
import RequestDispatch.Proofs.Route.TemplateText
import RequestDispatch.Proofs.Route.Widening
import RequestDispatch.Proofs.Text.Base64
import RequestDispatch.Proofs.Text.Blank
import RequestDispatch.Proofs.Text.Case
import RequestDispatch.Proofs.Text.Digits
import RequestDispatch.Proofs.Text.Utf8
import RequestDispatch.Proofs.Worker.Answer
import RequestDispatch.Proofs.Worker.Call
import RequestDispatch.Proofs.Worker.Calling
import RequestDispatch.Proofs.Worker.Course
import RequestDispatch.Proofs.Worker.Delivery
import RequestDispatch.Proofs.Worker.Drained
import RequestDispatch.Proofs.Worker.Envelope
import RequestDispatch.Proofs.Worker.Forward
import RequestDispatch.Proofs.Worker.Serve
import RequestDispatch.Regex
import RequestDispatch.Regex.Expr
import RequestDispatch.Regex.Matcher
import RequestDispatch.Regex.Property
import RequestDispatch.Regex.Reader
import RequestDispatch.Regex.Size
import RequestDispatch.Request
import RequestDispatch.RequestId
import RequestDispatch.Response
import RequestDispatch.Route.Error
import RequestDispatch.Route.Pattern
import RequestDispatch.Route.Table
import RequestDispatch.Route.Template
import RequestDispatch.Text.Base64
import RequestDispatch.Text.Blank
import RequestDispatch.Text.Category
import RequestDispatch.Text.Category.Table
import RequestDispatch.Text.CharSet
import RequestDispatch.Text.Digits
import RequestDispatch.Text.Fold
import RequestDispatch.Text.Quoted
import RequestDispatch.Text.Script
import RequestDispatch.Text.Utf8
import RequestDispatch.Trace
import RequestDispatch.Worker.Envelope
import RequestDispatch.Worker.Error
import RequestDispatch.Worker.Executor
import RequestDispatch.Worker.Frame
import RequestDispatch.Worker.Serve
import RequestDispatch.Worker.Task
import RequestDispatch.Yaml.Cursor
import RequestDispatch.Yaml.Node
import RequestDispatch.Yaml.Scalar
import RequestDispatch.Yaml.Token
import RequestDispatch.Yaml.Typed
