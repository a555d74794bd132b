import ClusterTopology.Installation

/-!
# Expanding layouts

A layout is brought into the form in which every shard and every replica is
listed.  The shards of a standard layout are made from its counts, whatever it
listed before; those of an advanced layout are kept and completed.

## Main definitions

* `defaultCount` — the count that a missing one stands for.
* `Shard.generated`, `Shard.completed` — a shard of a standard and of an advanced
  layout.
* `Layout.expanded` — the layout with all shards and replicas.
-/

namespace ClusterTopology

/-- The number of shards, and of replicas in a shard, where none is given. -/
def defaultCount : Nat := 1

/-- A count of a layout, where zero stands for none given. -/
def effectiveCount (count : Nat) : Nat := if count = 0 then defaultCount else count

/-- The shard of a standard layout: replicas without settings of their own, below
the deployment of the cluster. -/
def Shard.generated (cluster : Deployment) (replicasCount : Nat) : Shard where
  definitionType := .replicasCount
  replicasCount
  internalReplication := some .enabled
  deployment := Deployment.inherit {} cluster
  replicas := List.replicate replicasCount {}

/-- The shard of an advanced layout, with its flag set, its deployment inheriting
from that of the cluster, and its count and its replicas in agreement. -/
def Shard.completed (cluster : Deployment) (shard : Shard) : Shard where
  definitionType := shard.definitionType
  replicasCount := match shard.definitionType with
    | .replicasCount => shard.replicasCount
    | .replicas => shard.replicas.length
  internalReplication := some (shard.internalReplication.getD Flag.absent)
  deployment := shard.deployment.inherit cluster
  replicas := match shard.definitionType with
    | .replicasCount => List.replicate shard.replicasCount {}
    | .replicas => shard.replicas

/-- The layout with all shards and replicas, below the deployment of the cluster. -/
def Layout.expanded (cluster : Deployment) (layout : Layout) : Layout :=
  match layout.layoutType with
  | .standard =>
    let shardsCount := effectiveCount layout.shardsCount
    let replicasCount := effectiveCount layout.replicasCount
    ⟨.standard, shardsCount, replicasCount,
      List.replicate shardsCount (.generated cluster replicasCount)⟩
  | .advanced => { layout with shards := layout.shards.map (.completed cluster) }

/-! ### Basic properties -/

@[simp] theorem layoutType_expanded (cluster : Deployment) (layout : Layout) :
    (layout.expanded cluster).layoutType = layout.layoutType := by
  unfold Layout.expanded
  split <;> simp_all

theorem Layout.expanded_of_standard (cluster : Deployment) {layout : Layout}
    (h : layout.layoutType = .standard) :
    layout.expanded cluster =
      ⟨.standard, effectiveCount layout.shardsCount, effectiveCount layout.replicasCount,
        List.replicate (effectiveCount layout.shardsCount)
          (.generated cluster (effectiveCount layout.replicasCount))⟩ := by
  unfold Layout.expanded
  rw [h]

theorem Layout.expanded_of_advanced (cluster : Deployment) {layout : Layout}
    (h : layout.layoutType = .advanced) :
    layout.expanded cluster =
      { layout with shards := layout.shards.map (.completed cluster) } := by
  unfold Layout.expanded
  rw [h]

/-- A shard that is given by the number of its replicas has as many, without settings. -/
theorem Shard.replicas_completed_of_counted (cluster : Deployment) {shard : Shard}
    (h : shard.definitionType = .replicasCount) :
    (Shard.completed cluster shard).replicas = List.replicate shard.replicasCount {} := by
  unfold Shard.completed
  rw [h]

/-- A shard that lists its replicas keeps them. -/
theorem Shard.replicas_completed_of_listed (cluster : Deployment) {shard : Shard}
    (h : shard.definitionType = .replicas) :
    (Shard.completed cluster shard).replicas = shard.replicas := by
  unfold Shard.completed
  rw [h]

theorem effectiveCount_of_ne_zero {count : Nat} (h : count ≠ 0) : effectiveCount count = count :=
  if_neg h

theorem effectiveCount_pos (count : Nat) : 0 < effectiveCount count := by
  unfold effectiveCount defaultCount
  split <;> omega

@[simp] theorem effectiveCount_effectiveCount (count : Nat) :
    effectiveCount (effectiveCount count) = effectiveCount count := by
  have := effectiveCount_pos count
  rw [effectiveCount, if_neg (by omega)]

end ClusterTopology
