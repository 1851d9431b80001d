import Pagewright.Design.DynamicTag
import Pagewright.Document.Pool
import Pagewright.Main
import Pagewright.Proofs.Cache.Owners
import Pagewright.Proofs.Placeholder.Lookups
import Pagewright.Proofs.Registry.Sections
import Pagewright.Proofs.Registry.Calls
import Pagewright.Proofs.Registry.SlugSet
import Pagewright.Proofs.Registry.Settling
import Pagewright.Proofs.Import.Plugins
import Pagewright.Proofs.Import.Choices
import Pagewright.Proofs.Settings
import Pagewright.Proofs.Import.Promises
import Pagewright.Proofs.Faults
import Pagewright.Proofs.Import.Course
import Pagewright.Proofs.Import.Fates
import Pagewright.Proofs.Import.Pages
import Pagewright.Proofs.Registry.Answers
import Pagewright.Proofs.Import.Asking
import Pagewright.Proofs.Import.FailSoft
import Pagewright.Proofs.Cache.Persistence
import Pagewright.Proofs.Import.Accounting
import Pagewright.Proofs.Archive.Extraction
import Pagewright.Proofs.Archive.Spelling
import Pagewright.Proofs.Archive.Progress
import Pagewright.Proofs.Archive.Listing
import Pagewright.Proofs.Archive.Rearranged
import Pagewright.Proofs.Project.Alike
import Pagewright.Proofs.Import.Uploads
import Pagewright.Proofs.Cache.Staging
import Pagewright.Proofs.Host.Media
import Pagewright.Proofs.Import.Lossless
import Pagewright.Proofs.Project.Confinement
import Pagewright.Proofs.Cache.Memory
import Pagewright.Proofs.Cache.Readable
import Pagewright.Proofs.Document.Codec
import Pagewright.Proofs.Document.Translators
import Pagewright.Proofs.Project.Ownership
import Pagewright.Proofs.Project.Arrangement
import Pagewright.Proofs.Document.Numbering
import Pagewright.Proofs.Document.Sharing
import Pagewright.Proofs.Placeholder.Rendering
import Pagewright.Proofs.Settings.Layers
import Pagewright.Proofs.Detection.Statistics
import Pagewright.Proofs.Document.Exporting
import Pagewright.Proofs.Host.Keeping
import Pagewright.Proofs.Page.Sections
import Pagewright.Proofs.Page.Widgets
import Pagewright.Proofs.Detection.Preferred
import Pagewright.Proofs.Detection.Evidence
import Pagewright.Proofs.Style.Residue
import Pagewright.Proofs.Style.Rules
import Pagewright.Proofs.Project.Manifests
import Pagewright.Proofs.Style.Palette
import Pagewright.Proofs.Style.Codes
import Pagewright.Proofs.Document.Attributes
import Pagewright.Proofs.Settings.Texts
import Pagewright.Proofs.Settings.Updates
