import ClusterTopology.Proofs.Absorption
import ClusterTopology.Proofs.Naming
import ClusterTopology.Proofs.Settings

/-!
# Clusters with standard layouts

A standard layout gives two numbers, and nothing else in it counts.  All replicas that are made
from it inherit the same settings, so that they have one fingerprint, and they are numbered row
by row: the shards are the rows, and each has as many replicas as the others.  With larger
numbers there are more rows or longer ones, and more IDs after those that there were before.

## Main definitions

* `Cluster.withShards`, `Cluster.withCounts` — a cluster that lists other shards, or that gives
  other numbers.

## Main results

* `Scope.replicaAt?_normalize_of_standard` — the replica at a position.
* `Scope.deploymentIds_normalize_of_standard` — the IDs of all replicas.
* `Scope.normalize_standard` — **a standard layout is numbered row by row.**
-/

namespace ClusterTopology

/-! ### Uses of one fingerprint -/

namespace Usage

/-- Replicas with one fingerprint are numbered from its count on. -/
theorem stamps_replicate (u : Usage) (n : Nat) (f : Fingerprint) :
    u.stamps (List.replicate n f) = (List.range' (u.get f) n).map (f, ·) := by
  induction n generalizing u with
  | zero => rfl
  | succ n ih =>
    rw [List.replicate_succ, stamps_cons, ih, get_add, if_pos rfl, List.range'_succ, List.map_cons]

/-- Uses of one fingerprint make up one entry. -/
theorem toList_addAll_replicate {n : Nat} (h : n ≠ 0) (f : Fingerprint) :
    (empty.addAll (List.replicate n f)).toList = [(f, n)] := by
  have hnodup : (empty.addAll (List.replicate n f)).toList.Nodup := (nodup_keys _).of_map
  refine List.perm_singleton.mp ?_
  refine (List.perm_ext_iff_of_nodup hnodup (List.nodup_singleton _)).mpr ?_
  rintro ⟨g, m⟩
  rw [mem_toList_iff, mem_addAll, get_addAll, get_empty, Nat.zero_add, List.mem_singleton,
    Prod.mk.injEq, List.mem_replicate]
  constructor
  · rintro ⟨hg, rfl⟩
    obtain ⟨-, rfl⟩ := hg.resolve_left (notMem_empty g)
    exact ⟨rfl, List.count_replicate_self⟩
  · rintro ⟨rfl, rfl⟩
    exact ⟨.inr ⟨h, rfl⟩, List.count_replicate_self⟩

end Usage

/-! ### Standard layouts -/

/-- The cluster with other shards in its layout. -/
def Cluster.withShards (cluster : Cluster) (shards : List Shard) : Cluster :=
  { cluster with layout := { cluster.layout with shards } }

/-- The cluster with other counts in its layout. -/
def Cluster.withCounts (cluster : Cluster) (shardsCount replicasCount : Nat) : Cluster :=
  { cluster with layout := { cluster.layout with shardsCount, replicasCount } }

namespace Scope

variable (scope : Scope)

/-- The replicas that are made for a standard layout have the fingerprint of their cluster. -/
theorem shardFingerprints_generated (cluster : Deployment) (count : Nat) :
    scope.shardFingerprints (.generated cluster count) =
      List.replicate count (scope.fingerprint cluster) :=
  List.map_replicate

theorem flatMap_shardFingerprints_generated (cluster : Deployment) (m n : Nat) :
    (List.replicate m (Shard.generated cluster n)).flatMap scope.shardFingerprints =
      List.replicate (m * n) (scope.fingerprint cluster) := by
  rw [List.flatMap_replicate, shardFingerprints_generated, List.flatten_replicate_replicate]

/-- Within a shard that is made from a count, replicas are numbered one after the other. -/
theorem getElem?_replicas_resolveShard_generated (usage : Usage) (cluster : Deployment)
    (count k : Nat) :
    (scope.resolveShard usage (.generated cluster count)).value.replicas[k]? =
      if k < count then
        some ⟨cluster.stamp (scope.fingerprint cluster) (usage.get (scope.fingerprint cluster) + k)⟩
      else none := by
  have hrun := Outcome.getElem?_value_each_take
    (scope.resolveReplica (Shard.generated cluster count).deployment) usage
    (List.replicate count {}) k
  refine hrun.trans ?_
  rw [List.getElem?_replicate]
  split
  · next hk =>
    -- the replicas before this one are those of a shard with the smaller count
    have hbefore := scope.usage_resolveShard usage (.generated cluster k)
    rw [shardFingerprints_generated] at hbefore
    have hindex : ((scope.resolveShard usage (.generated cluster k)).usage).get
        (scope.fingerprint cluster) = usage.get (scope.fingerprint cluster) + k := by
      rw [hbefore, Usage.get_addAll, List.count_replicate_self]
    rw [List.take_replicate, Nat.min_eq_left (Nat.le_of_lt hk), ← hindex]
    rfl
  · rfl

variable {cluster : Cluster}

theorem expandedShards_of_standard (h : cluster.layout.layoutType = .standard) :
    scope.expandedShards cluster =
      List.replicate (effectiveCount cluster.layout.shardsCount)
        (.generated (scope.clusterDeployment cluster)
          (effectiveCount cluster.layout.replicasCount)) := by
  unfold expandedShards
  rw [Layout.expanded_of_standard _ h]

/-- All replicas of a standard layout have one fingerprint. -/
theorem fingerprints_of_standard (h : cluster.layout.layoutType = .standard) :
    scope.fingerprints cluster =
      List.replicate
        (effectiveCount cluster.layout.shardsCount * effectiveCount cluster.layout.replicasCount)
        (scope.fingerprint (scope.clusterDeployment cluster)) := by
  unfold fingerprints
  rw [scope.expandedShards_of_standard h, flatMap_shardFingerprints_generated]

/-- The replica at a position has the settings of its cluster, and an index that counts the
replicas row by row. -/
theorem replicaAt?_normalize_of_standard (h : cluster.layout.layoutType = .standard)
    (j k : Nat) :
    (scope.normalize cluster).value.replicaAt? j k =
      if j < effectiveCount cluster.layout.shardsCount ∧
          k < effectiveCount cluster.layout.replicasCount then
        some ⟨(scope.clusterDeployment cluster).stamp
          (scope.fingerprint (scope.clusterDeployment cluster))
          (j * effectiveCount cluster.layout.replicasCount + k)⟩
      else none := by
  change ((scope.normalize cluster).value.layout.shards[j]?.bind fun shard =>
    shard.replicas[k]?) = _
  rw [shards_normalize, scope.expandedShards_of_standard h, Outcome.getElem?_value_each_take,
    List.getElem?_replicate]
  by_cases hj : j < effectiveCount cluster.layout.shardsCount
  · rw [if_pos hj, Option.map_some, Option.bind_some, List.take_replicate,
      Nat.min_eq_left (Nat.le_of_lt hj), getElem?_replicas_resolveShard_generated,
      usage_each_resolveShard, flatMap_shardFingerprints_generated, Usage.get_addAll,
      Usage.get_empty, Nat.zero_add, List.count_replicate_self]
    simp only [hj, true_and]
  · rw [if_neg hj, if_neg fun hjk => hj hjk.1]
    rfl

/-- The IDs of the replicas, in order, have the indices from zero on. -/
theorem deploymentIds_normalize_of_standard (h : cluster.layout.layoutType = .standard) :
    (scope.normalize cluster).value.deploymentIds =
      (List.range (effectiveCount cluster.layout.shardsCount *
          effectiveCount cluster.layout.replicasCount)).map fun i =>
        .ok (deploymentIdOf (scope.fingerprint (scope.clusterDeployment cluster)) i) := by
  rw [Cluster.deploymentIds_of_stamps (scope.stamps_normalize cluster),
    scope.fingerprints_of_standard h, Usage.stamps_replicate, Usage.get_empty,
    ← List.range_eq_range', List.map_map]
  rfl

theorem fingerprint_of_mem_normalize_of_standard (h : cluster.layout.layoutType = .standard)
    {p : PlacedReplica} (hp : p ∈ (scope.normalize cluster).value.replicas) :
    p.replica.deployment.fingerprint =
      some (scope.fingerprint (scope.clusterDeployment cluster)) := by
  have hmem : p.replica.deployment.fingerprint ∈ (scope.fingerprints cluster).map some := by
    rw [← map_fingerprint_normalize]
    exact List.mem_map_of_mem hp
  rw [scope.fingerprints_of_standard h, List.map_replicate] at hmem
  exact (List.mem_replicate.mp hmem).2

/-- A standard layout is normalized by its counts, whatever else it lists. -/
theorem normalize_withShards_of_standard (h : cluster.layout.layoutType = .standard)
    (shards : List Shard) :
    scope.normalize (cluster.withShards shards) = scope.normalize cluster := by
  have hlayout : scope.resolveLayout (scope.clusterDeployment cluster)
        (cluster.withShards shards).layout =
      scope.resolveLayout (scope.clusterDeployment cluster) cluster.layout :=
    scope.resolveLayout_of_standard _ h h rfl rfl
  rw [normalize_eq scope cluster, ← hlayout]
  rfl

/-- **A standard layout is numbered row by row.**  All replicas have the settings of their
cluster and one fingerprint, the index of a replica is its place when the shards are read as
rows, and the usage has the one entry for all of them.  Shards that the layout lists make no
difference.  With larger counts the fingerprint stays the same, and the IDs that there were
before come first among those that there are then. -/
theorem normalize_standard {cluster : Cluster} (h : cluster.layout.layoutType = .standard) :
    let o := scope.normalize cluster
    let rows := effectiveCount cluster.layout.shardsCount
    let columns := effectiveCount cluster.layout.replicasCount
    let f := scope.fingerprint o.value.deployment
    (∀ j k, o.value.replicaAt? j k =
        if j < rows ∧ k < columns then
          some ⟨o.value.deployment.stamp f (j * columns + k)⟩
        else none) ∧
      o.usage.toList = [(f, rows * columns)] ∧
      (∀ shards, scope.normalize (cluster.withShards shards) = o) ∧
      o.value.deploymentIds =
        (List.range (rows * columns)).map (fun i => .ok (deploymentIdOf f i)) ∧
      ∀ shardsCount replicasCount,
        rows ≤ effectiveCount shardsCount → columns ≤ effectiveCount replicasCount →
          let o' := scope.normalize (cluster.withCounts shardsCount replicasCount)
          (∀ p ∈ o'.value.replicas, p.replica.deployment.fingerprint = some f) ∧
            o.value.deploymentIds <+: o'.value.deploymentIds := by
  intro o rows columns f
  have hids : o.value.deploymentIds =
      (List.range (rows * columns)).map fun i => .ok (deploymentIdOf f i) :=
    scope.deploymentIds_normalize_of_standard h
  refine ⟨scope.replicaAt?_normalize_of_standard h, ?usage,
    scope.normalize_withShards_of_standard h, hids, ?raised⟩
  case usage =>
    have hpos : rows * columns ≠ 0 :=
      Nat.mul_ne_zero (effectiveCount_pos _).ne' (effectiveCount_pos _).ne'
    change (scope.normalize cluster).usage.toList = _
    rw [usage_normalize_eq, scope.fingerprints_of_standard h]
    exact Usage.toList_addAll_replicate hpos f
  case raised =>
    intro shardsCount replicasCount hrows hcolumns o'
    have h' : (cluster.withCounts shardsCount replicasCount).layout.layoutType = .standard := h
    refine ⟨fun p hp => scope.fingerprint_of_mem_normalize_of_standard h' hp, ?_⟩
    have hids' : o'.value.deploymentIds =
        (List.range (effectiveCount shardsCount * effectiveCount replicasCount)).map
          fun i => .ok (deploymentIdOf f i) :=
      scope.deploymentIds_normalize_of_standard h'
    have hcount : List.range (rows * columns) =
        (List.range (effectiveCount shardsCount * effectiveCount replicasCount)).take
          (rows * columns) := by
      rw [List.take_range, Nat.min_eq_left (Nat.mul_le_mul hrows hcolumns)]
    rw [hids, hids', hcount]
    exact (List.take_prefix _ _).map _

/-- A cluster that counts two shards of three replicas and lists one of its own. -/
def rowsSample : Cluster where
  layout := { shardsCount := 2, replicasCount := 3, shards := [{ replicas := [{}] }] }
  deployment := { podTemplate := some "pod" }

theorem normalize_standard_rowsSample :
    let scope : Scope := ⟨"space", "name", none⟩
    let o := scope.normalize rowsSample
    rowsSample.layout.layoutType = .standard ∧
      (∃ r f, o.value.replicaAt? 1 2 = some r ∧ r.stamps? = some (f, 5) ∧
        o.usage.toList = [(f, 6)]) ∧
      scope.normalize (rowsSample.withShards []) = o ∧
      o.value.deploymentIds <+:
        (scope.normalize (rowsSample.withCounts 2 4)).value.deploymentIds := by
  intro scope o
  have htype : rowsSample.layout.layoutType = .standard := rfl
  obtain ⟨hreplicas, husage, hshards, -, hraised⟩ := scope.normalize_standard htype
  refine ⟨htype, ⟨_, _, hreplicas 1 2, rfl, husage⟩, hshards [], ?_⟩
  exact (hraised 2 4 (by decide) (by decide)).2

end Scope

end ClusterTopology
