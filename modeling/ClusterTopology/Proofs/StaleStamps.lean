import ClusterTopology.Proofs.Changes
import ClusterTopology.Proofs.Shapes

/-!
# Stale stamps

An installation may come with stamps from an earlier normalization, or with any others, at
every level.  No stamp is inherited, and none is hashed, so that a normalization reads none
of them: installations that differ in their stamps only are normalized alike, with the same
stamps on every replica.  Stamps above the replicas stay where they are; that is all that is
left of the difference.

## Main definitions

* `withoutStamps` — a value without stamps, in all its deployments.
* `Installation.withoutStampsAbove` — an installation without the stamps that a normalization
  leaves where they are.

## Main results

* `Deployment.neutralChange_withoutStamps` — a normalization does not notice stamps.
* `Scope.withoutStampsAbove_normalize` — a standard layout has no stamps above its replicas.
* `Installation.normalize_of_withoutStamps_eq` — **stale stamps make no difference to a
  normalization.**
-/

namespace ClusterTopology

/-! ### Stamps -/

/-- The deployment without its stamps. -/
def Deployment.withoutStamps (d : Deployment) : Deployment :=
  { d with fingerprint := none, index := none }

/-- The value without the stamps of any deployment in it. -/
def withoutStamps {α : Type} [HasDeployments α] (a : α) : α :=
  HasDeployments.mapDeployments Deployment.withoutStamps a

/-- Stamps are neither inherited nor hashed, and a replica loses its old ones anyway. -/
theorem Deployment.neutralChange_withoutStamps : NeutralChange withoutStamps id where
  empty := rfl
  inherit _ _ := rfl
  canonical _ := rfl
  stamp _ _ _ := rfl
  completed _ := rfl

/-- The cluster without the stamps of its own deployment and, if it lists its shards, without
those of their deployments. -/
def Cluster.withoutStampsAbove (c : Cluster) : Cluster :=
  match c.layout.layoutType with
  | .standard => { c with deployment := c.deployment.withoutStamps }
  | .advanced => c.mapLevels Deployment.withoutStamps id

/-- The installation without the stamps in its defaults, in its clusters and in the shards of
clusters that list them.  The stamps of replicas stay. -/
def Installation.withoutStampsAbove (x : Installation) : Installation :=
  { x with spec :=
    { defaults := withoutStamps x.spec.defaults
      configuration := ⟨x.clusters.map Cluster.withoutStampsAbove⟩ } }

/-! ### Standard layouts -/

theorem mapDeployments_id_replicas (replicas : List Replica) :
    HasDeployments.mapDeployments id replicas = replicas :=
  List.map_id replicas

/-- The shards of a standard layout have no stamps to lose. -/
theorem Shard.CountedShape.mapLevels_eq {cluster : Deployment} {count : Nat} {made : Shard}
    (h : made.CountedShape cluster count) : made.mapLevels Deployment.withoutStamps id = made := by
  refine Shard.ext rfl rfl rfl ?_ (mapDeployments_id_replicas made.replicas)
  change made.deployment.withoutStamps = made.deployment
  rw [h.deployment]
  rfl

/-- A normalized cluster has no stamps above its replicas but those that it came with. -/
theorem Scope.withoutStampsAbove_normalize (scope : Scope) (cluster : Cluster) :
    (scope.normalize cluster).value.withoutStampsAbove =
      (scope.normalize cluster).value.mapLevels Deployment.withoutStamps id := by
  have hshape := scope.shape_resolveLayout (scope.clusterDeployment cluster) cluster.layout
  unfold Cluster.withoutStampsAbove
  cases htype : (scope.normalize cluster).value.layout.layoutType with
  | advanced => rfl
  | standard =>
    have hstandard : cluster.layout.layoutType = .standard := hshape.layoutType.symm.trans htype
    have hshards : (scope.normalize cluster).value.layout.shards.map
          (Shard.mapLevels Deployment.withoutStamps id) =
        (scope.normalize cluster).value.layout.shards := by
      rw [HasDeployments.map_eq_self_iff]
      intro shard hshard
      exact ((hshape.standard hstandard).shards shard hshard).mapLevels_eq
    exact Cluster.ext rfl (Layout.ext rfl rfl rfl hshards.symm) rfl

/-! ### Installations -/

namespace Installation

/-- Nothing happens to the replicas if they are left as they are. -/
theorem replicaAt?_mapLevels_id (f : Deployment → Deployment) (x : Installation) (i j k : Nat) :
    (x.mapLevels f id).replicaAt? i j k = x.replicaAt? i j k :=
  (x.replicaAt?_mapLevels f id i j k).trans (congrFun Option.map_id _)

theorem withoutStampsAbove_normalize (x : Installation) :
    x.normalize.value.withoutStampsAbove =
      x.normalize.value.mapLevels Deployment.withoutStamps id := by
  have hclusters : x.normalize.value.clusters.map Cluster.withoutStampsAbove =
      x.normalize.value.clusters.map (.mapLevels Deployment.withoutStamps id) := by
    rw [clusters_normalize, List.map_map, List.map_map]
    exact List.map_congr_left fun cluster _ =>
      x.completedScope.withoutStampsAbove_normalize cluster
  exact Installation.ext rfl (Spec.ext rfl (congrArg Configuration.mk hclusters))

/-- **Stale stamps make no difference to a normalization.**  Installations that differ only in
the stamps of their deployments have the same usage once they are normalized, and at each
position the same replica, settings and stamps included.  They are the same but for stamps in
the defaults, in clusters and in shards of clusters that list them. -/
theorem normalize_of_withoutStamps_eq {x y : Installation}
    (h : withoutStamps x = withoutStamps y) :
    x.normalize.usage = y.normalize.usage ∧
      (∀ i j k, x.normalize.value.replicaAt? i j k = y.normalize.value.replicaAt? i j k) ∧
      x.normalize.value.withoutStampsAbove = y.normalize.value.withoutStampsAbove := by
  let above : Installation → Installation := .mapLevels Deployment.withoutStamps id
  -- both runs are the run for what the installations have in common
  have hrun : x.normalize.map above = y.normalize.map above := by
    calc x.normalize.map above
        = (withoutStamps x).normalize := (Deployment.neutralChange_withoutStamps.normalize x).symm
      _ = (withoutStamps y).normalize := by rw [h]
      _ = y.normalize.map above := Deployment.neutralChange_withoutStamps.normalize y
  have htree : above x.normalize.value = above y.normalize.value := congrArg Outcome.value hrun
  refine ⟨?usage, ?replicas, ?tree⟩
  case usage => rw [← Outcome.usage_map above, hrun, Outcome.usage_map]
  case replicas =>
    intro i j k
    calc x.normalize.value.replicaAt? i j k
        = (above x.normalize.value).replicaAt? i j k := (replicaAt?_mapLevels_id _ _ i j k).symm
      _ = (above y.normalize.value).replicaAt? i j k := by rw [htree]
      _ = y.normalize.value.replicaAt? i j k := replicaAt?_mapLevels_id _ _ i j k
  case tree =>
    rw [withoutStampsAbove_normalize, withoutStampsAbove_normalize]
    exact htree

/-- A cluster that counts its shards, and one that lists a shard and a replica, with a change
of all deployments. -/
def stampedSample (stamp : Deployment → Deployment) : Installation :=
  let counting : Cluster := { layout := { shardsCount := 2 } }
  let shard : Shard := { replicas := [{ deployment := { podTemplate := some "pod" } }] }
  let listing : Cluster := { layout := { layoutType := .advanced, shards := [shard] } }
  HasDeployments.mapDeployments stamp { spec := ⟨{}, ⟨[counting, listing]⟩⟩ }

theorem normalize_of_withoutStamps_eq_stampedSample :
    let fresh := stampedSample id
    let stale := stampedSample (·.stamp ⟨"stale"⟩ 7)
    stale ≠ fresh ∧ withoutStamps stale = withoutStamps fresh ∧
      stale.normalize.usage = fresh.normalize.usage ∧ fresh.normalize.usage.total = 3 ∧
      (∃ r, stale.normalize.value.replicaAt? 1 0 0 = some r ∧
        fresh.normalize.value.replicaAt? 1 0 0 = some r ∧
        r.deployment.podTemplate = some "pod" ∧ r.deployment.index = some 0) ∧
      stale.normalize.value.withoutStampsAbove = fresh.normalize.value.withoutStampsAbove := by
  intro fresh stale
  have hstamps : withoutStamps stale = withoutStamps fresh := rfl
  obtain ⟨husage, hreplica, htree⟩ := normalize_of_withoutStamps_eq hstamps
  obtain ⟨r, hr, hpod, hindex⟩ : ∃ r, fresh.normalize.value.replicaAt? 1 0 0 = some r ∧
      r.deployment.podTemplate = some "pod" ∧ r.deployment.index = some 0 := ⟨_, rfl, rfl, rfl⟩
  exact ⟨by decide, hstamps, husage, by decide +kernel,
    ⟨r, (hreplica 1 0 0).trans hr, hr, hpod, hindex⟩, htree⟩

end Installation

end ClusterTopology
