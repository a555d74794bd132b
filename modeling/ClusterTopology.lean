import ClusterTopology.Assoc
import ClusterTopology.Deployment
import ClusterTopology.DeploymentId
import ClusterTopology.Event
import ClusterTopology.Expansion
import ClusterTopology.Fingerprint
import ClusterTopology.Flag
import ClusterTopology.Installation
import ClusterTopology.Json.Basic
import ClusterTopology.Json.Text
import ClusterTopology.Layering
import ClusterTopology.Normalization
import ClusterTopology.Proofs.Absorption
import ClusterTopology.Proofs.CanonicalTexts
import ClusterTopology.Proofs.Changes
import ClusterTopology.Proofs.Clashes
import ClusterTopology.Proofs.Counts
import ClusterTopology.Proofs.Deployments
import ClusterTopology.Proofs.EmptySettings
import ClusterTopology.Proofs.Growth
import ClusterTopology.Proofs.HashInputs
import ClusterTopology.Proofs.LastBytes
import ClusterTopology.Proofs.LayerSteps
import ClusterTopology.Proofs.Layers
import ClusterTopology.Proofs.Listings
import ClusterTopology.Proofs.Log
import ClusterTopology.Proofs.Naming
import ClusterTopology.Proofs.Numbering
import ClusterTopology.Proofs.Preservation
import ClusterTopology.Proofs.Rearrangements
import ClusterTopology.Proofs.Renamings
import ClusterTopology.Proofs.Reordering
import ClusterTopology.Proofs.Rewrites
import ClusterTopology.Proofs.RoundTrips
import ClusterTopology.Proofs.Runs
import ClusterTopology.Proofs.Schedules
import ClusterTopology.Proofs.Settings
import ClusterTopology.Proofs.Shapes
import ClusterTopology.Proofs.ShortIds
import ClusterTopology.Proofs.Sizing
import ClusterTopology.Proofs.Spellings
import ClusterTopology.Proofs.StaleStamps
import ClusterTopology.Proofs.Stamps
import ClusterTopology.Proofs.StandardLayouts
import ClusterTopology.Proofs.UsageOrder
import ClusterTopology.QuotedText
import ClusterTopology.Resolution
import ClusterTopology.Sha256
import ClusterTopology.SortedMap
import ClusterTopology.Usage
import ClusterTopology.Wire.Basic
import ClusterTopology.Wire.Installation
import ClusterTopology.Wire.Record
