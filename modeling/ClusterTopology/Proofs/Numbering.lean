import ClusterTopology.Proofs.HashInputs
import ClusterTopology.Proofs.Sizing

/-!
# Numbering replicas

Shards can be resolved one after the other with one usage, whatever that has counted before.
The count goes on from there: a replica has as its index the count that its fingerprint had
at first, and one more for every replica before it with this fingerprint, no matter in which
shard that replica is and what it inherits from there.

A normalized cluster begins with a usage that has counted nothing.  So those of its replicas
that have one fingerprint have the indices 0, 1, 2, … in the order in which the replicas
stand, shard by shard.  The usage that comes with the cluster is the count of its replicas,
and the fingerprint of a replica is that of its deployment as it is stored in the end, stamps
included, since these are not hashed.

The counts are natural numbers here.  A resolution that counts in 64 bits makes the same
replicas and the same usage, as long as no count reaches the greatest one of 64 bits.

## Main definitions

* `Shard.withoutReplicaDeployments` — what the resolution of a shard leaves as it is.

## Main results

* `Scope.resolveReplica_eq_increment`, `Scope.usage_each_resolveShard_eq_increment`,
  `Scope.usage_normalize_eq_increment` — resolving with counts of 64 bits.
* `Scope.stamps_of_getElem?_each_resolveShard` — the stamps of the replica at a place.
* `Scope.each_resolveShard_continues` — **shards with one usage are numbered as one.**
* `Scope.map_index_filter_normalize` — the indices of a fingerprint, in order.
* `Scope.total_normalize` — the total of the usage.
* `Scope.normalize_numbered` — **the replicas of a cluster are numbered and counted.**
-/

namespace ClusterTopology

/-- The replica with its deployment left out. -/
def Replica.withoutDeployment (replica : Replica) : Replica := { replica with deployment := {} }

/-- The shard with the deployments of its replicas left out. -/
def Shard.withoutReplicaDeployments (shard : Shard) : Shard :=
  { shard with replicas := shard.replicas.map Replica.withoutDeployment }

/-- The indices of the replicas with one fingerprint are those of their stamps. -/
theorem map_index_filter_of_stamps {ps : List PlacedReplica} {ss : List (Fingerprint × Nat)}
    (h : ps.map (·.replica.stamps?) = ss.map some) (f : Fingerprint) :
    (ps.filter fun p => p.replica.deployment.fingerprint = some f).map
        (·.replica.deployment.index) =
      ((ss.filter (·.1 = f)).map (·.2)).map some := by
  induction ps generalizing ss with
  | nil =>
    obtain rfl := List.map_eq_nil_iff.mp h.symm
    rfl
  | cons p ps ih =>
    obtain ⟨⟨g, i⟩, ss, rfl, hp, hps⟩ := List.map_eq_cons_iff.mp h.symm
    obtain ⟨hfingerprint, hindex⟩ := Replica.stamps?_eq_some_iff.mp hp.symm
    rw [List.filter_cons, List.filter_cons, hfingerprint]
    by_cases hg : g = f
    · simp only [hg, decide_true, if_true, List.map_cons, hindex, ih hps.symm]
    · simp only [hg, Option.some.injEq, decide_false, Bool.false_eq_true, if_false, ih hps.symm]

namespace Scope

variable (scope : Scope)

/-! ### Counts of 64 bits -/

/-- While the count of its fingerprint has room, a replica gets the index before the count that
its use is counted as in 64 bits. -/
theorem resolveReplica_eq_increment {parent : Deployment} {usage : Usage} {replica : Replica}
    (h : usage.get (scope.fingerprint (replica.deployment.inherit parent)) + 1 < UInt64.size) :
    scope.resolveReplica parent usage replica =
      let resolved := replica.deployment.inherit parent
      let f := scope.fingerprint resolved
      let index := (usage.increment f).get f - 1
      ⟨⟨resolved.stamp f index⟩, usage.increment f, [.resolvedReplica f index]⟩ := by
  unfold resolveReplica
  simp only [Usage.increment_eq_add h, Usage.get_add, if_true, Nat.add_sub_cancel]

/-- Shards that are resolved one after the other have their replicas counted as in 64 bits, if
the counts after them have room. -/
theorem usage_each_resolveShard_eq_increment {usage : Usage} {shards : List Shard}
    (h : ∀ f, (Outcome.each scope.resolveShard usage shards).usage.get f < UInt64.size) :
    (Outcome.each scope.resolveShard usage shards).usage =
      (shards.flatMap scope.shardFingerprints).foldl Usage.increment usage := by
  simp only [usage_each_resolveShard, Usage.get_addAll] at h ⊢
  exact (Usage.foldl_increment_eq_addAll h).symm

/-- A cluster with less than `UInt64.size` replicas has them counted as in 64 bits. -/
theorem usage_normalize_eq_increment {cluster : Cluster}
    (h : (scope.normalize cluster).value.replicas.length < UInt64.size) :
    (scope.normalize cluster).usage =
      (scope.fingerprints cluster).foldl Usage.increment .empty := by
  have hcounts : ∀ f, (scope.normalize cluster).usage.get f < UInt64.size := by
    intro f
    rw [← uses_normalize]
    exact Nat.lt_of_le_of_lt List.countP_le_length h
  rw [usage_normalize] at hcounts ⊢
  exact scope.usage_each_resolveShard_eq_increment hcounts

/-! ### Shards with one usage -/

theorem withoutReplicaDeployments_resolveShard (usage : Usage) (shard : Shard) :
    (scope.resolveShard usage shard).value.withoutReplicaDeployments =
      shard.withoutReplicaDeployments := by
  have hstep : ∀ u own, (scope.resolveReplica shard.deployment u own).value.withoutDeployment =
      own.withoutDeployment := fun _ _ => rfl
  have hreplicas := Outcome.map_value_each hstep usage shard.replicas
  exact Shard.ext rfl rfl rfl rfl hreplicas

theorem map_fingerprint_each_resolveShard (usage : Usage) (shards : List Shard) :
    ((Outcome.each scope.resolveShard usage shards).value.flatMap (·.replicas)).map
        (·.deployment.fingerprint) =
      (shards.flatMap scope.shardFingerprints).map some := by
  rw [map_fingerprint_of_stamps (scope.stamps_each_resolveShard usage shards),
    Usage.map_fst_stamps]

/-- The replica at a place is stamped with its fingerprint and with the count of this after
the replicas before it. -/
theorem stamps_of_getElem?_each_resolveShard {usage : Usage} {shards : List Shard} {i : Nat}
    {r : Replica}
    (h : ((Outcome.each scope.resolveShard usage shards).value.flatMap (·.replicas))[i]? =
      some r) :
    ∃ f, r.stamps? =
      some (f, (usage.addAll ((shards.flatMap scope.shardFingerprints).take i)).get f) := by
  have hplace := congrArg (·[i]?) (scope.stamps_each_resolveShard usage shards)
  simp only [List.getElem?_map, h, Usage.getElem?_stamps, Option.map_some] at hplace
  obtain ⟨stamp, hstamp, hr⟩ := Option.map_eq_some_iff.mp hplace.symm
  obtain ⟨f, -, rfl⟩ := Option.map_eq_some_iff.mp hstamp
  exact ⟨f, hr.symm⟩

/-- **Shards with one usage are numbered as one.**  Of the replicas of all shards, in order,
each has as its index the count that its fingerprint has at first, and one more for every
replica before it with this fingerprint.  The usage ends with the counts that it has at first
and the numbers of replicas, and with entries for what had one and for the fingerprints of
replicas only.  No stamps are given twice, and nothing in the shards is changed but the
deployments of their replicas. -/
theorem each_resolveShard_continues (usage : Usage) (shards : List Shard) :
    let o := Outcome.each scope.resolveShard usage shards
    let replicas := o.value.flatMap (·.replicas)
    (∀ i r, replicas[i]? = some r → ∃ f, r.deployment.fingerprint = some f ∧
        r.deployment.index = some (usage.get f +
          (replicas.take i).countP fun q => q.deployment.fingerprint = some f)) ∧
      (∀ f, o.usage.get f =
        usage.get f + replicas.countP fun q => q.deployment.fingerprint = some f) ∧
      (∀ f, (∃ n, (f, n) ∈ o.usage.toList) ↔
        (∃ n, (f, n) ∈ usage.toList) ∨ ∃ r ∈ replicas, r.deployment.fingerprint = some f) ∧
      (replicas.map Replica.stamps?).Nodup ∧
      o.value.map Shard.withoutReplicaDeployments =
        shards.map Shard.withoutReplicaDeployments := by
  intro o replicas
  let fs := shards.flatMap scope.shardFingerprints
  have hfingerprints : replicas.map (·.deployment.fingerprint) = fs.map some :=
    scope.map_fingerprint_each_resolveShard usage shards
  have husage : o.usage = usage.addAll fs := scope.usage_each_resolveShard usage shards
  refine ⟨?indices, ?counts, ?entries, ?nodup, ?frame⟩
  case indices =>
    intro i r hr
    obtain ⟨f, hstamps⟩ := scope.stamps_of_getElem?_each_resolveShard hr
    obtain ⟨hf, hindex⟩ := Replica.stamps?_eq_some_iff.mp hstamps
    have hbefore : (replicas.take i).map (·.deployment.fingerprint) = (fs.take i).map some := by
      rw [List.map_take, hfingerprints, List.map_take]
    refine ⟨f, hf, ?_⟩
    rw [hindex, Usage.get_addAll, countP_fingerprint_eq hbefore]
  case counts =>
    intro f
    rw [husage, Usage.get_addAll, countP_fingerprint_eq hfingerprints]
  case entries =>
    intro f
    have hmem : f ∈ fs ↔ ∃ r ∈ replicas, r.deployment.fingerprint = some f := by
      rw [← List.mem_map_of_injective (Option.some_injective _), ← hfingerprints, List.mem_map]
    rw [← Usage.mem_iff_exists, ← Usage.mem_iff_exists, husage, Usage.mem_addAll, hmem]
  case nodup =>
    rw [scope.stamps_each_resolveShard usage shards]
    exact (Usage.nodup_stamps usage fs).map (Option.some_injective _)
  case frame =>
    exact Outcome.map_value_each scope.withoutReplicaDeployments_resolveShard usage shards

/-! ### Normalized clusters -/

/-- The indices of a fingerprint are the numbers below its count, in order. -/
theorem map_index_filter_normalize (cluster : Cluster) (f : Fingerprint) :
    ((scope.normalize cluster).value.replicas.filter
        fun p => p.replica.deployment.fingerprint = some f).map (·.replica.deployment.index) =
      (List.range ((scope.normalize cluster).usage.get f)).map some := by
  have hcount : (scope.normalize cluster).usage.get f = (scope.fingerprints cluster).count f := by
    rw [usage_normalize_eq, Usage.get_addAll, Usage.get_empty, Nat.zero_add]
  rw [map_index_filter_of_stamps (scope.stamps_normalize cluster) f, Usage.map_snd_filter_stamps,
    Usage.get_empty, hcount, List.range_eq_range']

/-- The total of the usage is the number of replicas. -/
theorem total_normalize (cluster : Cluster) :
    (scope.normalize cluster).usage.total = (scope.normalize cluster).value.replicas.length := by
  have hlength : (scope.normalize cluster).value.stamps.length =
      (scope.normalize cluster).value.replicas.length := List.length_map _
  rw [← hlength]
  apply Usage.total_eq_length (scope.nodup_stamps_normalize cluster)
  · intro s hs
    exact scope.exists_stamps_of_mem hs
  · intro f i
    exact scope.mem_stamps_normalize

/-- **The replicas of a cluster are numbered and counted.**  The count of a fingerprint in
the usage is the number of replicas that have it; there is an entry for it exactly if some
replica has it, and these replicas have the indices below the count, in their order.  The
total is the number of all replicas.  Every replica carries both stamps, and its fingerprint
is that of its deployment as it is stored. -/
theorem normalize_numbered (cluster : Cluster) :
    let o := scope.normalize cluster
    (∀ f, o.usage.get f =
          o.value.replicas.countP (fun p => p.replica.deployment.fingerprint = some f) ∧
        ((∃ n, (f, n) ∈ o.usage.toList) ↔
          0 < o.value.replicas.countP fun p => p.replica.deployment.fingerprint = some f) ∧
        (o.value.replicas.filter fun p => p.replica.deployment.fingerprint = some f).map
            (·.replica.deployment.index) =
          (List.range (o.usage.get f)).map some) ∧
      o.usage.total = o.value.replicas.length ∧
      ∀ p ∈ o.value.replicas, ∃ index, p.replica.deployment.index = some index ∧
        p.replica.deployment.fingerprint =
          some (p.replica.deployment.fingerprintIn scope.namespaceName scope.name) := by
  intro o
  refine ⟨fun f => ⟨?count, ?entry, ?indices⟩, scope.total_normalize cluster, ?stamped⟩
  case count => exact (scope.uses_normalize cluster f).symm
  case entry =>
    have huses := scope.uses_normalize cluster f
    unfold Cluster.uses at huses
    rw [← Usage.mem_iff_exists, mem_usage_normalize, huses]
  case indices => exact scope.map_index_filter_normalize cluster f
  case stamped =>
    intro p hp
    obtain ⟨f, index, hs⟩ := scope.exists_stamps_of_mem (List.mem_map_of_mem hp)
    exact ⟨index, (Replica.stamps?_eq_some_iff.mp hs).2, scope.fingerprint_of_mem_normalize hp⟩

end Scope

end ClusterTopology
