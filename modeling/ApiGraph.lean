import ApiGraph.Main
import ApiGraph.Project.Edit
import ApiGraph.Proofs.FirstUse
import ApiGraph.Proofs.OpenApi.Operations
import ApiGraph.Proofs.Text.Literal
import ApiGraph.Proofs.Backend.Registrations
import ApiGraph.Proofs.Exposure
import ApiGraph.Proofs.SameOperations
import ApiGraph.Proofs.Backend.Steps
import ApiGraph.Proofs.Served
import ApiGraph.Proofs.Access
import ApiGraph.Proofs.Json.Record
import ApiGraph.Proofs.Json.Normal
import ApiGraph.Proofs.Json.ReadBack
import ApiGraph.Proofs.Project.ReadBack
import ApiGraph.Proofs.Project.Migration
import ApiGraph.Proofs.Json.Parser
import ApiGraph.Proofs.Project.RoundTrip
import ApiGraph.Proofs.Number.Rounding
import ApiGraph.Proofs.Number.Shortest
import ApiGraph.Proofs.Number.Notation
import ApiGraph.Proofs.Number.Numeral
import ApiGraph.Proofs.Json.NumberText
import ApiGraph.Proofs.Json.StringText
import ApiGraph.Proofs.Json.Text
import ApiGraph.Proofs.Fresh
import ApiGraph.Proofs.Backend.Names
import ApiGraph.Proofs.Backend.References
import ApiGraph.Proofs.Backend.Uses
import ApiGraph.Proofs.Backend.Imports
import ApiGraph.Proofs.Backend.FileSet
import ApiGraph.Proofs.Backend.Links
import ApiGraph.Proofs.Backend.RouteModules
import ApiGraph.Proofs.Backend.Calls
import ApiGraph.Proofs.Backend.Dependencies
import ApiGraph.Proofs.Backend.TextLines
import ApiGraph.Proofs.Backend.RouteLines
import ApiGraph.Proofs.Backend.ImportLines
import ApiGraph.Proofs.Backend.LegibleData
import ApiGraph.Proofs.Backend.DocumentText
import ApiGraph.Proofs.Backend.Legible
import ApiGraph.Proofs.Backend.RouterText
import ApiGraph.Proofs.Backend.Linking
import ApiGraph.Proofs.Cosmetic
import ApiGraph.Proofs.Backend.Plans
import ApiGraph.Proofs.Backend.StoreCalls
import ApiGraph.Proofs.Quiet
import ApiGraph.Proofs.Backend.Serving
import ApiGraph.Proofs.Dispatch
import ApiGraph.Proofs.Path
import ApiGraph.Proofs.OpenApi.PathParameters
import ApiGraph.Proofs.Backend.Paths
import ApiGraph.Proofs.Json.Pointer
import ApiGraph.Proofs.OpenApi.Components
import ApiGraph.Proofs.OpenApi.References
import ApiGraph.Proofs.Fields
import ApiGraph.Proofs.Backend.Lines
import ApiGraph.Proofs.Backend.Answers
import ApiGraph.Proofs.Repetitions
import ApiGraph.Proofs.Success
import ApiGraph.Proofs.Engines
import ApiGraph.Proofs.ModelReferences
import ApiGraph.Proofs.Responses
import ApiGraph.Proofs.Backend.Credentials
import ApiGraph.Proofs.Backend.Renaming
import ApiGraph.Proofs.Backend.Identifiers
import ApiGraph.Proofs.Backend.Scopes
import ApiGraph.Proofs.Backend.RouterNames
import ApiGraph.Proofs.Backend.Comments
import ApiGraph.Proofs.Backend.RecordCalls
import ApiGraph.Proofs.Addressing
import ApiGraph.Proofs.Locality
import ApiGraph.Proofs.BasePath
import ApiGraph.Proofs.OpenApi.OperationIds
import ApiGraph.Proofs.OpenApi.Extension
import ApiGraph.Proofs.Json.Alike
import ApiGraph.Proofs.Project.Gaps
import ApiGraph.Proofs.Project.NullKeys
import ApiGraph.Proofs.Backend.Defaults
import ApiGraph.Proofs.Text.Value
import ApiGraph.Proofs.Backend.Specs
import ApiGraph.Proofs.BodyFields
import ApiGraph.Proofs.Text.StringLiteral
import ApiGraph.Proofs.Text.Trim
import ApiGraph.Proofs.Backend.SearchCalls
import ApiGraph.Proofs.SearchFields
import ApiGraph.Proofs.Limits
import ApiGraph.Proofs.Project.FieldForm
import ApiGraph.Proofs.Naming.Normal
