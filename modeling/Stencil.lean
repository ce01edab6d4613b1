import Stencil.Cache
import Stencil.CommandLine.Arguments
import Stencil.CommandLine.Flag
import Stencil.CommandLine.Run
import Stencil.CommandLine.Shell
import Stencil.CommandLine.Usage
import Stencil.Compiler
import Stencil.Deployment
import Stencil.Encoding.Codec
import Stencil.Encoding.Name
import Stencil.ErrorPage
import Stencil.Failure
import Stencil.Json.Reader
import Stencil.Json.Writer
import Stencil.Logging
import Stencil.Main
import Stencil.Metrics
import Stencil.Model
import Stencil.Notice
import Stencil.Number.Binary64
import Stencil.Number.Complex
import Stencil.Number.Decimal
import Stencil.Number.Hexadecimal
import Stencil.Number.Real
import Stencil.Outcome
import Stencil.Path
import Stencil.Pipeline
import Stencil.Proofs.Cache
import Stencil.Proofs.Cache.Conservation
import Stencil.Proofs.Cache.Inclusion
import Stencil.Proofs.Cache.Recency
import Stencil.Proofs.Cache.Room
import Stencil.Proofs.CommandLine.ExitCodes
import Stencil.Proofs.CommandLine.LogLevel
import Stencil.Proofs.CommandLine.Outcomes
import Stencil.Proofs.CommandLine.Overrides
import Stencil.Proofs.Compiler
import Stencil.Proofs.Deployment
import Stencil.Proofs.Encoding
import Stencil.Proofs.Encoding.References
import Stencil.Proofs.ErrorPage
import Stencil.Proofs.ErrorPage.Skeleton
import Stencil.Proofs.ErrorPage.Tags
import Stencil.Proofs.Logging
import Stencil.Proofs.Metrics
import Stencil.Proofs.Pipeline.Closure
import Stencil.Proofs.Pipeline.Depth
import Stencil.Proofs.Pipeline.Ensures
import Stencil.Proofs.Pipeline.Executions
import Stencil.Proofs.Pipeline.Failures
import Stencil.Proofs.Pipeline.Kinds
import Stencil.Proofs.Pipeline.Loads
import Stencil.Proofs.Pipeline.Origins
import Stencil.Proofs.Pipeline.Proceeds
import Stencil.Proofs.Pipeline.Rendition
import Stencil.Proofs.Pipeline.Resolving
import Stencil.Proofs.Routine.Answers
import Stencil.Proofs.Routine.Course
import Stencil.Proofs.Routine.Terms
import Stencil.Proofs.Schedule.Acts
import Stencil.Proofs.Schedule.Bystander
import Stencil.Proofs.Schedule.Cancellation
import Stencil.Proofs.Schedule.Contract
import Stencil.Proofs.Schedule.Course
import Stencil.Proofs.Schedule.Deeds
import Stencil.Proofs.Schedule.Everywhere
import Stencil.Proofs.Schedule.Flight
import Stencil.Proofs.Schedule.Gate
import Stencil.Proofs.Schedule.Honors
import Stencil.Proofs.Schedule.Linked
import Stencil.Proofs.Schedule.Lone
import Stencil.Proofs.Schedule.Order
import Stencil.Proofs.Schedule.Progress
import Stencil.Proofs.Schedule.Rest
import Stencil.Proofs.Schedule.SingleFlight
import Stencil.Proofs.Schedule.Total
import Stencil.Proofs.Schedule.Turn
import Stencil.Proofs.Session.Accounts
import Stencil.Proofs.Session.Agreement
import Stencil.Proofs.Session.Balance
import Stencil.Proofs.Session.Chronicle
import Stencil.Proofs.Session.Counters
import Stencil.Proofs.Session.Delivery
import Stencil.Proofs.Session.Failures
import Stencil.Proofs.Session.Genuine
import Stencil.Proofs.Session.Invalidate
import Stencil.Proofs.Session.Loads
import Stencil.Proofs.Session.Log
import Stencil.Proofs.Session.Lookups
import Stencil.Proofs.Session.Once
import Stencil.Proofs.Session.Operation
import Stencil.Proofs.Session.Origins
import Stencil.Proofs.Session.Private
import Stencil.Proofs.Session.Regime
import Stencil.Proofs.Session.Retry
import Stencil.Proofs.Session.Service
import Stencil.Proofs.Session.SharedLoads
import Stencil.Proofs.Session.Sharing
import Stencil.Proofs.Session.Transparent
import Stencil.Proofs.Session.Turns
import Stencil.Proofs.Settings
import Stencil.Proofs.Template.Models
import Stencil.Proofs.Template.Printing
import Stencil.Proofs.Template.Skeleton
import Stencil.Proofs.Template.Variables
import Stencil.Routine
import Stencil.Schedule.Scheduler
import Stencil.Schedule.Standing
import Stencil.Session
import Stencil.Settings
import Stencil.Storage.FileTree
import Stencil.Storage.Local
import Stencil.Storage.Memory
import Stencil.Template.Access
import Stencil.Template.Braces
import Stencil.Template.Call
import Stencil.Template.Class
import Stencil.Template.Code
import Stencil.Template.Constant
import Stencil.Template.Conversion
import Stencil.Template.Evaluate
import Stencil.Template.Fault
import Stencil.Template.Filter
import Stencil.Template.Filter.Json
import Stencil.Template.Filter.Number
import Stencil.Template.Filter.Pretty
import Stencil.Template.Filter.Sequence
import Stencil.Template.Filter.Text
import Stencil.Template.Filter.Url
import Stencil.Template.Iteration
import Stencil.Template.Lexer
import Stencil.Template.Listing
import Stencil.Template.Lowering
import Stencil.Template.Lowering.Expression
import Stencil.Template.Members
import Stencil.Template.Method
import Stencil.Template.Method.Construct
import Stencil.Template.Method.Containers
import Stencil.Template.Method.Number
import Stencil.Template.Method.Operand
import Stencil.Template.Method.Safe
import Stencil.Template.Method.Strings
import Stencil.Template.Operator
import Stencil.Template.Order
import Stencil.Template.Parser
import Stencil.Template.Printf
import Stencil.Template.Resolution
import Stencil.Template.Show
import Stencil.Template.Sorting
import Stencil.Template.Subscript
import Stencil.Template.Syntax
import Stencil.Template.Test
import Stencil.Template.Token
import Stencil.Template.Value
import Stencil.Text.Basic
import Stencil.Text.Case
import Stencil.Text.CharacterName
import Stencil.Text.CharacterName.Table
import Stencil.Text.Field
import Stencil.Text.Letters
import Stencil.Text.Link
import Stencil.Text.Markup
import Stencil.Text.Normal
import Stencil.Text.Normal.Table
import Stencil.Text.Numeral
import Stencil.Text.Percent
import Stencil.Text.Property
import Stencil.Text.Quoted
import Stencil.Text.Reference
import Stencil.Text.Reference.Table
import Stencil.Text.Spec
import Stencil.Text.Wrap
import Stencil.Proofs.Pipeline.Names
import Stencil.Proofs.Session.Outcomes
import Stencil.Proofs.Storage.Classification
import Stencil.Proofs.Pipeline.Plain
import Stencil.Proofs.Session.Forward
import Stencil.Proofs.Session.Plain
import Stencil.Proofs.CommandLine.Delivery
import Stencil.Proofs.CommandLine.LineEnds
import Stencil.Proofs.CommandLine.Sources
import Stencil.Proofs.Pipeline.Inheritance
