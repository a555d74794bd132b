import ClusterTopology.Proofs.Absorption

/-!
# The shape of a normalized cluster

In a normalized cluster every count is the length of a list.  A standard layout has as many
shards as it counts, all of one kind; an advanced one has the shards that it lists, and each
of these has as many replicas as it counts.  Every shard has taken over what it leaves open
from the cluster.  Nothing is left to do for such a cluster: normalized once more it stays as
it is, and the scope may even have lost the defaults, since the cluster has them by now.

## Main definitions

* `Shard.CountedShape`, `Shard.ListedShape` — the shards of normalized clusters.
* `Layout.Shape` — the layout of a normalized cluster.

## Main results

* `Scope.shape_resolveLayout` — a resolved layout has its shape.
* `Scope.normalize_withoutDefaults` — a normalized cluster needs no defaults any more.
* `Scope.normalize_shaped` — **a normalized cluster has its shape and keeps it.**
-/

namespace ClusterTopology

/-! ### Shapes -/

/-- A shard that is made from a count, below the deployment of its cluster. -/
structure Shard.CountedShape (cluster : Deployment) (count : Nat) (made : Shard) : Prop where
  definitionType : made.definitionType = .replicasCount
  internalReplication : made.internalReplication = some .enabled
  replicasCount : made.replicasCount = count
  replicas : made.replicas.length = count
  deployment : made.deployment = Deployment.inherit {} cluster

/-- A shard that is made from a listed one, below the deployment of its cluster.  It has the
number of replicas that is given for it or listed in it. -/
structure Shard.ListedShape (cluster : Deployment) (given made : Shard) : Prop where
  definitionType : made.definitionType = given.definitionType
  internalReplication :
    made.internalReplication = some (given.internalReplication.getD .enabled)
  replicasCount : made.replicasCount = made.replicas.length
  counted : given.definitionType = .replicasCount → made.replicas.length = given.replicasCount
  listed : given.definitionType = .replicas → made.replicas.length = given.replicas.length
  deployment : made.deployment = given.deployment.inherit cluster

/-- A standard layout that lists what it counts, below the deployment of the cluster. -/
structure Layout.StandardShape (cluster : Deployment) (made : Layout) : Prop where
  shardsCount_pos : 1 ≤ made.shardsCount
  replicasCount_pos : 1 ≤ made.replicasCount
  length : made.shards.length = made.shardsCount
  shards : ∀ shard ∈ made.shards, shard.CountedShape cluster made.replicasCount

/-- A layout that is made from a given one, below the deployment of the cluster. -/
structure Layout.Shape (cluster : Deployment) (given made : Layout) : Prop where
  layoutType : made.layoutType = given.layoutType
  standard : given.layoutType = .standard → made.StandardShape cluster
  advanced : given.layoutType = .advanced →
    List.Forall₂ (Shard.ListedShape cluster) given.shards made.shards

namespace Scope

variable (scope : Scope)

/-! ### Shards and layouts -/

/-- Resolving replicas leaves all but the replicas as it was, and their number. -/
theorem countedShape_resolveShard_generated (cluster : Deployment) (count : Nat) (usage : Usage) :
    (scope.resolveShard usage (.generated cluster count)).value.CountedShape cluster count where
  definitionType := rfl
  internalReplication := rfl
  replicasCount := rfl
  replicas := by
    refine (Outcome.length_value_each _ usage _).trans ?_
    exact List.length_replicate
  deployment := rfl

theorem listedShape_resolveShard_completed (cluster : Deployment) (usage : Usage)
    (given : Shard) :
    given.ListedShape cluster (scope.resolveShard usage (.completed cluster given)).value := by
  have hlength : (scope.resolveShard usage (.completed cluster given)).value.replicas.length =
      (Shard.completed cluster given).replicas.length := Outcome.length_value_each _ usage _
  refine ⟨rfl, rfl, ?replicasCount, ?counted, ?listed, rfl⟩
  case replicasCount =>
    rw [hlength]
    change (Shard.completed cluster given).replicasCount = _
    unfold Shard.completed
    cases given.definitionType with
    | replicasCount => exact List.length_replicate.symm
    | replicas => rfl
  case counted =>
    intro htype
    rw [hlength, Shard.replicas_completed_of_counted cluster htype, List.length_replicate]
  case listed =>
    intro htype
    rw [hlength, Shard.replicas_completed_of_listed cluster htype]

theorem standardShape_resolveLayout (cluster : Deployment) {given : Layout}
    (h : given.layoutType = .standard) :
    (scope.resolveLayout cluster given).value.StandardShape cluster := by
  unfold resolveLayout
  rw [Layout.expanded_of_standard cluster h]
  refine ⟨effectiveCount_pos _, effectiveCount_pos _, ?length, ?shards⟩
  case length =>
    refine (Outcome.length_value_each _ .empty _).trans ?_
    exact List.length_replicate
  case shards =>
    refine Outcome.forall_mem_value_each scope.resolveShard ?_ .empty
    intro u shard hshard
    obtain rfl := (List.mem_replicate.mp hshard).2
    exact scope.countedShape_resolveShard_generated cluster _ u

theorem shape_resolveLayout (cluster : Deployment) (given : Layout) :
    given.Shape cluster (scope.resolveLayout cluster given).value where
  layoutType := scope.layoutType_resolveLayout cluster given
  standard := scope.standardShape_resolveLayout cluster
  advanced h := by
    rw [scope.resolveLayout_of_advanced cluster h]
    exact Outcome.forall₂_value_each (scope.listedShape_resolveShard_completed cluster) .empty _

/-! ### Once more -/

/-- The scope with nothing for clusters to inherit. -/
def withoutDefaults : Scope := { scope with defaults := none }

/-- A normalized cluster needs no defaults any more. -/
theorem normalize_withoutDefaults (cluster : Cluster) :
    scope.withoutDefaults.normalize (scope.normalize cluster).value = scope.normalize cluster := by
  have hahead := Layered.Anticipates.refl (scope.clusterDeployment cluster)
  -- replicas are resolved within the same installation
  have hlayout : scope.withoutDefaults.resolveLayout (scope.clusterDeployment cluster)
        (scope.normalize cluster).value.layout =
      scope.resolveLayout (scope.clusterDeployment cluster) cluster.layout :=
    scope.resolveLayout_resolveLayout scope hahead cluster.layout
  have hdeployment : scope.withoutDefaults.clusterDeployment (scope.normalize cluster).value =
      scope.clusterDeployment cluster := rfl
  rw [normalize_eq scope.withoutDefaults, hdeployment, hlayout]
  rfl

/-- **A normalized cluster has its shape and keeps it.**  A standard layout lists as many
shards as it counts and as many replicas in each of them, an advanced one keeps its shards and
fills them up; whatever is open in a shard comes from the cluster.  If the cluster is
normalized once more, with the same defaults or with none, then nothing changes, and the usage
is the same. -/
theorem normalize_shaped (cluster : Cluster) :
    let o := scope.normalize cluster
    cluster.layout.Shape o.value.deployment o.value.layout ∧
      scope.normalize o.value = o ∧ scope.withoutDefaults.normalize o.value = o := by
  intro o
  refine ⟨?shape, ?again, scope.normalize_withoutDefaults cluster⟩
  case shape => exact scope.shape_resolveLayout (scope.clusterDeployment cluster) cluster.layout
  case again => exact normalize_normalize (.refl scope) cluster

end Scope

end ClusterTopology
