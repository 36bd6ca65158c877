import ClassBridge.FileSystem.Listing
import ClassBridge.Main
import ClassBridge.Proofs.Artifact.Listings
import ClassBridge.Proofs.Generation
import ClassBridge.Proofs.Interface.Symbols
import ClassBridge.Proofs.Validation.Verdict
import ClassBridge.Proofs.FileSystem.Creation
import ClassBridge.Proofs.Model.Desugaring
import ClassBridge.Proofs.Staging.Containment
import ClassBridge.Proofs.Abandonment
import ClassBridge.Proofs.Staging.Interruption
import ClassBridge.Proofs.Code.Findings
import ClassBridge.Proofs.Artifact.Gluing
import ClassBridge.Proofs.Artifact.BitwiseCopies
import ClassBridge.Proofs.Interface.Identifiers
import ClassBridge.Proofs.Validation.NativeSpellings
import ClassBridge.Proofs.Pipeline.Gate
import ClassBridge.Proofs.Model.Expanded
import ClassBridge.Proofs.Pipeline.Events
import ClassBridge.Proofs.FrontEnd.Agreement
import ClassBridge.Proofs.FileSystem.Outcomes
import ClassBridge.Proofs.Staging.Twins
import ClassBridge.Proofs.Staging.Settled
import ClassBridge.Proofs.Repetition
import ClassBridge.Proofs.Artifact.TranslatorTypes
import ClassBridge.Proofs.Pipeline.Driving
import ClassBridge.Proofs.Pipeline.Dumps
import ClassBridge.Proofs.Pipeline.Snapshots
import ClassBridge.Proofs.Artifact.Wrapping
import ClassBridge.Proofs.Artifact.Definitions
import ClassBridge.Proofs.Manifest.NameSites
import ClassBridge.Proofs.Manifest.HeaderSpans
import ClassBridge.Proofs.Interface.Lookups
import ClassBridge.Proofs.Model.Resolution
import ClassBridge.Proofs.Sheet.InPlace
import ClassBridge.Proofs.Artifact.Modularity
