import ClassRecovery.Files.Tree
import ClassRecovery.Main
import ClassRecovery.Proofs.Documentation.Compound
import ClassRecovery.Proofs.Dump.ClassChange
import ClassRecovery.Proofs.Dump.ClassRecord
import ClassRecovery.Proofs.Dump.GenericCalls
import ClassRecovery.Proofs.Dump.Globals
import ClassRecovery.Proofs.Dump.IgnoredClass
import ClassRecovery.Proofs.Dump.IgnoredMember
import ClassRecovery.Proofs.Dump.Incremental
import ClassRecovery.Proofs.Dump.Lockstep
import ClassRecovery.Proofs.Fusion.Frame
import ClassRecovery.Proofs.Dump.MemberRemoval
import ClassRecovery.Proofs.Model.Indexes
import ClassRecovery.Proofs.Json.Decode
import ClassRecovery.Proofs.Json.Layout
import ClassRecovery.Proofs.Json.Reader
import ClassRecovery.Proofs.Json.RoundTrip
import ClassRecovery.Proofs.Model.Json
import ClassRecovery.Proofs.Model.Operations
import ClassRecovery.Proofs.Fusion.Pointwise
import ClassRecovery.Proofs.Names
import ClassRecovery.Proofs.Model.RoundTrip
import ClassRecovery.Proofs.Dump.ClassNames
import ClassRecovery.Proofs.Extraction.Variables
import ClassRecovery.Proofs.Fusion.Appending
import ClassRecovery.Proofs.Model.Lookups
import ClassRecovery.Proofs.Fusion.Overloads
import ClassRecovery.Proofs.Dump.Coherence
import ClassRecovery.Proofs.Dump.Marks
import ClassRecovery.Proofs.Extraction.Kinds
import ClassRecovery.Proofs.Model.Histories
import ClassRecovery.Proofs.Extraction.Links
import ClassRecovery.Proofs.TypeText.Idempotence
import ClassRecovery.Proofs.TypeText.Translation
import ClassRecovery.Proofs.Dump.PrototypeChain
import ClassRecovery.Proofs.Dump.MemberBlock
import ClassRecovery.Proofs.Dump.PropertyLines
import ClassRecovery.Proofs.Dump.MethodBlock
import ClassRecovery.Proofs.Dump.SelfReference
import ClassRecovery.Proofs.Dump.UnknownTarget
import ClassRecovery.Proofs.GenericCall.Completeness
import ClassRecovery.Proofs.GenericCall.NullReceiver
import ClassRecovery.Proofs.Names.Denotation
import ClassRecovery.Proofs.Dump.InlineMembers
import ClassRecovery.Proofs.Dump.Failure
import ClassRecovery.Proofs.Dump.Rendering
import ClassRecovery.Proofs.Model.Duplicates
import ClassRecovery.Proofs.Dump.Trailer
