import ClusterTopology.Expansion
import ClusterTopology.Resolution

/-!
# Normalization

A normalized installation has its defaults filled in, its layouts expanded and
every replica resolved and stamped.  Normalization always succeeds.  It counts
how often each deployment is used: within a cluster every replica counts, and an
installation needs as many instances as the cluster that uses most of them.

## Main definitions

* `Installation.completeDefaults` — the installation with its defaults filled in.
* `Scope.normalize` — a normalized cluster.
* `Installation.normalize` — a normalized installation.
* `Installation.normalizeAt`, `Installation.resolveShardAt` — one cluster
  normalized, or one shard resolved.
-/

namespace ClusterTopology

/-! ### Defaults -/

/-- The settings for all clusters with the flag and the scenario filled in. -/
def Defaults.completed (d : Defaults) : Defaults where
  replicasUseFqdn := some (d.replicasUseFqdn.getD Flag.absent)
  deployment := { d.deployment with
    scenario := Layered.inherit d.deployment.scenario (some defaultScenario) }

/-- The installation with its defaults filled in. -/
def Installation.completeDefaults (x : Installation) : Installation :=
  { x with spec := { x.spec with defaults := x.spec.defaults.completed } }

/-! ### Clusters -/

namespace Scope

/-- The normalized cluster, with the usage of this cluster alone. -/
def normalize (scope : Scope) (cluster : Cluster) : Outcome Cluster :=
  let deployment := Layered.inheritOption cluster.deployment scope.defaults
  let layout := cluster.layout.expanded deployment
  let shards := Outcome.each scope.resolveShard .empty layout.shards
  { value := { cluster with deployment, layout := { layout with shards := shards.value } }
    usage := shards.usage
    events := shards.events ++
      [.normalizedCluster cluster.name layout.layoutType shards.value.length shards.usage.size] }

/-- The normalized cluster, with its usage merged into the given one. -/
def normalizeInto (scope : Scope) (usage : Usage) (cluster : Cluster) : Outcome Cluster :=
  let o := scope.normalize cluster
  ⟨o.value, usage.sup o.usage, o.events⟩

end Scope

/-! ### Installations -/

namespace Installation

/-- The installation as a scope without defaults. -/
def bareScope (x : Installation) : Scope := ⟨x.namespaceOrEmpty, x.nameOrEmpty, none⟩

/-- The installation as a scope, with its deployment for all clusters. -/
def scope (x : Installation) : Scope :=
  { x.bareScope with defaults := some x.spec.defaults.deployment }

/-- The normalized installation, with the number of instances that it needs of each
deployment. -/
def normalize (x : Installation) : Outcome Installation :=
  let y := x.completeDefaults
  let clusters := Outcome.each y.scope.normalizeInto .empty y.clusters
  { value := y.withClusters clusters.value
    usage := clusters.usage
    events := .normalizing x.metadata.namespaceName x.metadata.name :: clusters.events ++
      [.normalizedInstallation clusters.usage.size clusters.usage.total] }

/-- The installation with the cluster at index `i` normalized within a scope, and
the usage of that cluster. -/
def normalizeAt (x : Installation) (scope : Scope) (i : Nat) :
    Option (Outcome Installation) :=
  x.clusters[i]?.map fun cluster =>
    (scope.normalize cluster).map fun cluster => x.withClusters (x.clusters.set i cluster)

/-- The installation with shard `j` of the cluster at index `i` resolved within a
scope, from the given usage. -/
def resolveShardAt (x : Installation) (scope : Scope) (usage : Usage) (i j : Nat) :
    Option (Outcome Installation) :=
  x.clusters[i]?.bind fun cluster =>
    cluster.layout.shards[j]?.map fun shard =>
      (scope.resolveShard usage shard).map fun shard =>
        x.withClusters (x.clusters.set i { cluster with
          layout := { cluster.layout with shards := cluster.layout.shards.set j shard } })

end Installation

end ClusterTopology
