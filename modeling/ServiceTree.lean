import ServiceTree.Unicode.IdentifierCharacter
import ServiceTree.Name.Spelling
import ServiceTree.Model.Declaration
import ServiceTree.Model.Validation
import ServiceTree.Model.Library
import ServiceTree.Model.File
import ServiceTree.Query.Literal
import ServiceTree.Http.Endpoint
import ServiceTree.Http.Transport
import ServiceTree.Client.FaultDocument
import ServiceTree.Client.Invocation
import ServiceTree.Client.Resolution
import ServiceTree.Plan.Compile
import ServiceTree.Plan.Document
import ServiceTree.Yaml.Block
import ServiceTree.Yaml.Reader
import ServiceTree.Emit.Identifier
import ServiceTree.Emit.Documentation
import ServiceTree.Emit.Method
import ServiceTree.Emit.Accessor
import ServiceTree.Emit.AnyService
import ServiceTree.Emit.Client
import ServiceTree.Emit.Execution
import ServiceTree.Storage.FileSystem
import ServiceTree.Command.Arguments
import ServiceTree.Command.Run
import ServiceTree.Main
import ServiceTree.Proofs.NameOrder
import ServiceTree.Proofs.Outcome
import ServiceTree.Proofs.MemberMerge
import ServiceTree.Proofs.BaseOrder
import ServiceTree.Proofs.Inheritance
import ServiceTree.Proofs.ModelValidity
import ServiceTree.Proofs.ValidPlanning
import ServiceTree.Proofs.PlanInvariants
import ServiceTree.Proofs.DeclarationOrder
import ServiceTree.Proofs.PathSteps
import ServiceTree.Proofs.LocatorWalks
import ServiceTree.Proofs.OwnPaths
import ServiceTree.Proofs.PathComposition
import ServiceTree.Proofs.LiteralRoutes
import ServiceTree.Proofs.WireAgreement
import ServiceTree.Proofs.EmittedServices
import ServiceTree.Proofs.ResolverAgreement
import ServiceTree.Proofs.ClientAgreement
import ServiceTree.Proofs.CompactDocuments
import ServiceTree.Proofs.ModelDocuments
import ServiceTree.Proofs.FreeDocuments
import ServiceTree.Proofs.BodyRoundTrip
import ServiceTree.Proofs.CallErrors
import ServiceTree.Proofs.PlannableModels
import ServiceTree.Proofs.CallAccounting
import ServiceTree.Proofs.FailureOrder
import ServiceTree.Proofs.IndentedDocuments
import ServiceTree.Proofs.PlanDocuments
import ServiceTree.Proofs.EmissionOutcomes
import ServiceTree.Proofs.TypeNames
import ServiceTree.Proofs.RequestContainment
import ServiceTree.Proofs.RunEffects
import ServiceTree.Proofs.WordBoundaries
import ServiceTree.Proofs.SegmentWalks
import ServiceTree.Proofs.HeldEntries
import ServiceTree.Proofs.SentRequests
import ServiceTree.Proofs.PercentText
import ServiceTree.Proofs.RequestDecoding
import ServiceTree.Proofs.BaseCycles
import ServiceTree.Proofs.WellFormedModels
import ServiceTree.Proofs.ParameterRoles
import ServiceTree.Proofs.OptionKeys
import ServiceTree.Proofs.CalendarDays
import ServiceTree.Proofs.TimestampText
import ServiceTree.Proofs.QueryLiterals
import ServiceTree.Proofs.CoercedBodies
import ServiceTree.Proofs.ActionResponses
import ServiceTree.Proofs.OptionDependence
import ServiceTree.Proofs.TypedCoercion
import ServiceTree.Proofs.IndexedPlaces
import ServiceTree.Proofs.Spellings
import ServiceTree.Proofs.ParsedNames
import ServiceTree.Proofs.MemberNames
import ServiceTree.Proofs.NormalNames
import ServiceTree.Proofs.SharedRecordings
import ServiceTree.Proofs.WholeFiles
import ServiceTree.Proofs.TomlTexts
import ServiceTree.Proofs.TomlLines
import ServiceTree.Proofs.ManifestText
