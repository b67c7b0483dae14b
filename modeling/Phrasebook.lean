import Phrasebook.Build.Catalog
import Phrasebook.KeyPath.Json
import Phrasebook.Load.OptionsJson
import Phrasebook.Proofs.Build.Validated
import Phrasebook.Proofs.Load.Lookup
import Phrasebook.Proofs.KeyPath.Canonical
import Phrasebook.Proofs.Template.Spelling
import Phrasebook.Proofs.Template.Grammar
import Phrasebook.Proofs.Template.SourceText
import Phrasebook.Proofs.KeyPath.ReferenceForm
import Phrasebook.Proofs.Resolve.Lockstep
import Phrasebook.Proofs.Build.Recording
import Phrasebook.Proofs.Resolve.Shared
import Phrasebook.Proofs.Resolve.Widening
import Phrasebook.Proofs.Build.Pipeline
import Phrasebook.Proofs.Resolve.Composition
import Phrasebook.Proofs.Resolve.Moments
import Phrasebook.Proofs.Audit.Lines
import Phrasebook.Proofs.File.Leading
import Phrasebook.Proofs.Build.Course
import Phrasebook.Proofs.Build.AuditLog
import Phrasebook.Proofs.Build.Repetition
import Phrasebook.Proofs.Resolve.Rendering
import Phrasebook.Proofs.Catalog.Fallback
import Phrasebook.Proofs.Table.Order
import Phrasebook.Proofs.Load.FirstFault
import Phrasebook.Proofs.Load.Reordering
import Phrasebook.Proofs.Load.Leniency
import Phrasebook.Proofs.Template.Rejection
import Phrasebook.Proofs.Resolve.OutputBound
import Phrasebook.Proofs.Template.Mention
import Phrasebook.Proofs.Resolve.Alias
import Phrasebook.Proofs.Catalog.Asking
import Phrasebook.Proofs.Build.Counting
import Phrasebook.Proofs.Config.Sources
import Phrasebook.Proofs.Resolve.Additivity
