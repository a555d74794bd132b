import ClusterTopology.Proofs.Absorption
import ClusterTopology.Proofs.Numbering

/-!
# Counts written out as lists

A cluster may give the number of its shards or list them, and a shard may give the number
of its replicas or list them.  A count is a shorthand: a cluster that counts its shards is
normalized like the one that lists as many shards without settings, and a shard that counts
its replicas like the one that lists as many replicas without settings.  All that is left
of the difference is what a layout or a shard says about the way it was given.

## Main definitions

* `Cluster.listed`, `Shard.listed` — a cluster and a shard with a list for their counts.
* `Cluster.mapShards` — a cluster with the shard at each index changed.

## Main results

* `Scope.expandedShards_listed` — a cluster has the same shards either way.
* `Scope.resolveShard_completed_listed` — a shard has the same replicas either way.
* `Scope.normalize_listed` — **counts and lists are normalized alike.**
-/

namespace ClusterTopology

/-- The shard with its replicas listed instead of counted, none of which has settings, and
any count beside them.  A shard that lists its replicas stays as it is. -/
def Shard.listed (shard : Shard) (count : Nat) : Shard :=
  match shard.definitionType with
  | .replicasCount =>
    { shard with
      definitionType := .replicas
      replicasCount := count
      replicas := List.replicate shard.replicasCount {} }
  | .replicas => shard

/-- The shard, said to list its replicas. -/
def Shard.markListed (shard : Shard) : Shard := { shard with definitionType := .replicas }

/-- The cluster with the shards of its standard layout listed instead of counted, none of
which has settings or a flag. -/
def Cluster.listed (cluster : Cluster) : Cluster :=
  let shard : Shard :=
    { definitionType := .replicasCount
      replicasCount := effectiveCount cluster.layout.replicasCount }
  { cluster with
    layout := { cluster.layout with
      layoutType := .advanced
      shards := List.replicate (effectiveCount cluster.layout.shardsCount) shard } }

/-- The cluster with the shard at each index changed. -/
def Cluster.mapShards (f : Nat → Shard → Shard) (cluster : Cluster) : Cluster :=
  { cluster with layout := { cluster.layout with shards := cluster.layout.shards.mapIdx f } }

/-! ### Listed shards -/

/-- The flag and the deployment of a counted shard are those that a shard without any is
completed with. -/
theorem Shard.generated_eq_completed (cluster : Deployment) (count : Nat) :
    Shard.generated cluster count =
      Shard.completed cluster { definitionType := .replicasCount, replicasCount := count } := rfl

namespace Scope

variable (scope : Scope)

/-- A cluster has the same shards before they are resolved, counted or listed. -/
theorem expandedShards_listed {cluster : Cluster} (h : cluster.layout.layoutType = .standard) :
    scope.expandedShards cluster.listed = scope.expandedShards cluster := by
  have hlisted : cluster.listed.layout.layoutType = .advanced := rfl
  unfold expandedShards
  rw [Layout.expanded_of_standard _ h, Layout.expanded_of_advanced _ hlisted]
  simp only [Cluster.listed, List.map_replicate, Shard.generated_eq_completed]
  rfl

/-! ### Listed replicas -/

/-- A shard has the same replicas, counted or listed. -/
theorem resolveShard_completed_listed (cluster : Deployment) (usage : Usage) (shard : Shard)
    (count : Nat) :
    scope.resolveShard usage (Shard.completed cluster (shard.listed count)) =
      (scope.resolveShard usage (Shard.completed cluster shard)).map Shard.markListed := by
  obtain ⟨definitionType, replicasCount, internalReplication, deployment, replicas⟩ := shard
  cases definitionType with
  | replicasCount =>
    have hlength : (List.replicate replicasCount ({} : Replica)).length = replicasCount :=
      List.length_replicate
    simp only [Shard.listed, Shard.completed, hlength]
    rfl
  | replicas => rfl

/-! ### Clusters -/

/-- An advanced cluster with a change to its shards that their resolution passes on to the
resolved shards. -/
theorem normalize_mapShards {cluster : Cluster} (h : cluster.layout.layoutType = .advanced)
    {f g : Nat → Shard → Shard}
    (hstep : ∀ usage j shard,
      scope.resolveShard usage (Shard.completed (scope.clusterDeployment cluster) (f j shard)) =
        (scope.resolveShard usage (Shard.completed (scope.clusterDeployment cluster) shard)).map
          (g j)) :
    scope.normalize (cluster.mapShards f) =
      (scope.normalize cluster).map (Cluster.mapShards g) := by
  have hlisted : scope.resolveListed (scope.clusterDeployment cluster)
        (cluster.layout.shards.mapIdx f) =
      (scope.resolveListed (scope.clusterDeployment cluster) cluster.layout.shards).map
        (List.mapIdx g) := by
    unfold resolveListed
    apply Outcome.each_mapIdx_comm
    exact hstep
  have hlayout : scope.resolveLayout (scope.clusterDeployment cluster)
        (cluster.mapShards f).layout =
      (scope.resolveLayout (scope.clusterDeployment cluster) cluster.layout).map fun layout =>
        { layout with shards := layout.shards.mapIdx g } := by
    have hmapped : (cluster.mapShards f).layout.layoutType = .advanced := h
    rw [resolveLayout_of_advanced _ _ h, resolveLayout_of_advanced _ _ hmapped]
    exact congrArg (Outcome.map fun shards =>
      (⟨.advanced, cluster.layout.shardsCount, cluster.layout.replicasCount, shards⟩ : Layout))
      hlisted
  have hdeployment : scope.clusterDeployment (cluster.mapShards f) =
      scope.clusterDeployment cluster := rfl
  rw [normalize_eq, normalize_eq, hdeployment, hlayout]
  simp only [Outcome.value_map, List.length_mapIdx]
  rfl

/-- **Counts and lists are normalized alike.**  A standard cluster has the same deployment,
the same resolved shards and the same usage as the cluster that lists its shards, each with
the number of its replicas.  In an advanced cluster any shards may list their replicas
instead of counting them: nothing changes but that these shards are said to list them. -/
theorem normalize_listed (cluster : Cluster) :
    (cluster.layout.layoutType = .standard →
      (scope.normalize cluster.listed).value.deployment =
          (scope.normalize cluster).value.deployment ∧
        (scope.normalize cluster.listed).value.layout.shards =
          (scope.normalize cluster).value.layout.shards ∧
        (scope.normalize cluster.listed).usage = (scope.normalize cluster).usage) ∧
      (cluster.layout.layoutType = .advanced → ∀ (chosen : Nat → Bool) (counts : Nat → Nat),
        scope.normalize
            (cluster.mapShards fun j s => if chosen j then s.listed (counts j) else s) =
          (scope.normalize cluster).map
            (Cluster.mapShards fun j s => if chosen j then s.markListed else s)) := by
  refine ⟨?shards, ?replicas⟩
  case shards =>
    intro h
    rw [shards_normalize, shards_normalize, usage_normalize, usage_normalize,
      expandedShards_listed scope h]
    exact ⟨rfl, rfl, rfl⟩
  case replicas =>
    intro h chosen counts
    apply scope.normalize_mapShards h
    intro usage j shard
    cases chosen j with
    | false => rfl
    | true => exact scope.resolveShard_completed_listed _ usage shard (counts j)

/-- Two shards with one replica each, below a deployment of the scope. -/
def countedSample : Cluster := { layout := { shardsCount := 2 } }

/-- A shard that counts two replicas, and one that lists a replica. -/
def mixedSample : Cluster :=
  let shards : List Shard :=
    [{ definitionType := .replicasCount, replicasCount := 2 }, { replicas := [{}] }]
  { layout := { layoutType := .advanced, shards } }

theorem normalize_listed_mixedSample :
    let scope : Scope := ⟨"space", "name", some { podTemplate := some "pod" }⟩
    countedSample.layout.layoutType = .standard ∧
      (scope.normalize countedSample.listed).value.layout.shards =
        (scope.normalize countedSample).value.layout.shards ∧
      (scope.normalize countedSample).value.layout.shards.length = 2 ∧
      (scope.normalize countedSample.listed).usage = (scope.normalize countedSample).usage ∧
      (scope.normalize countedSample).usage.total = 2 ∧
      mixedSample.layout.layoutType = .advanced ∧
      scope.normalize
          (mixedSample.mapShards fun j s => if j == 0 then s.listed 7 else s) =
        (scope.normalize mixedSample).map
          (Cluster.mapShards fun j s => if j == 0 then s.markListed else s) ∧
      (scope.normalize mixedSample).value.replicas.length = 3 ∧
      (scope.normalize mixedSample).usage.total = 3 := by
  intro scope
  obtain ⟨-, hshards, husage⟩ := (scope.normalize_listed countedSample).1 rfl
  have hreplicas := (scope.normalize_listed mixedSample).2 rfl (· == 0) (fun _ => 7)
  have hcounted : (scope.normalize countedSample).usage.total = 2 := scope.total_normalize _
  have hmixed : (scope.normalize mixedSample).usage.total = 3 := scope.total_normalize _
  exact ⟨rfl, hshards, rfl, husage, hcounted, rfl, hreplicas, rfl, hmixed⟩

end Scope

end ClusterTopology
