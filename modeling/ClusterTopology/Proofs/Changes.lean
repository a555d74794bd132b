import ClusterTopology.Proofs.Absorption
import ClusterTopology.Proofs.Deployments
import ClusterTopology.Proofs.Settings

/-!
# Changes that a normalization passes on

A change of deployments may be one that a normalization does not notice: it passes through
inheritance, is not hashed and does not decide about the default scenario.  Then it makes no
difference whether all deployments of an installation are changed before a normalization or
after it.  Replicas are stamped in between, so that what becomes of a change there may be
another one.

## Main definitions

* `Deployment.NeutralChange` — the change of a deployment that a normalization does not
  notice, and what it is once the deployment is stamped.
* `Shard.mapLevels`, `Cluster.mapLevels`, `Installation.mapLevels` — a value with the
  deployments of its replicas changed in one way and those above them in another.

## Main results

* `Deployment.NeutralChange.resolveShard`, `Deployment.NeutralChange.normalize_cluster` — what
  a change does to each step.
* `Deployment.NeutralChange.normalize` — **a neutral change before a normalization is one
  after it.**
-/

namespace ClusterTopology

open HasDeployments

/-! ### Changes of values -/

section Levels

variable (f g : Deployment → Deployment)

/-- The shard with its deployment changed by `f` and those of its replicas by `g`. -/
def Shard.mapLevels (s : Shard) : Shard :=
  { s with deployment := f s.deployment, replicas := mapDeployments g s.replicas }

/-- The layout with the deployments of its shards changed by `f` and those of their replicas
by `g`. -/
def Layout.mapLevels (l : Layout) : Layout := { l with shards := l.shards.map (.mapLevels f g) }

/-- The cluster with the deployments of its replicas changed by `g` and all others by `f`. -/
def Cluster.mapLevels (c : Cluster) : Cluster :=
  { c with layout := c.layout.mapLevels f g, deployment := f c.deployment }

/-- The spec with the deployments of its replicas changed by `g` and all others by `f`. -/
def Spec.mapLevels (s : Spec) : Spec where
  defaults := mapDeployments f s.defaults
  configuration := ⟨s.configuration.clusters.map (.mapLevels f g)⟩

/-- The installation with the deployments of its replicas changed by `g` and all others
by `f`. -/
def Installation.mapLevels (x : Installation) : Installation :=
  { x with spec := x.spec.mapLevels f g }

theorem Cluster.replicaAt?_mapLevels (c : Cluster) (j k : Nat) :
    (c.mapLevels f g).replicaAt? j k = (c.replicaAt? j k).map (mapDeployments g) := by
  change ((c.layout.shards.map (Shard.mapLevels f g))[j]?.bind fun shard => shard.replicas[k]?) =
    (c.layout.shards[j]?.bind fun shard => shard.replicas[k]?).map (mapDeployments g)
  rw [List.getElem?_map]
  cases c.layout.shards[j]? with
  | none => rfl
  | some shard => exact List.getElem?_map

theorem Installation.replicaAt?_mapLevels (x : Installation) (i j k : Nat) :
    (x.mapLevels f g).replicaAt? i j k = (x.replicaAt? i j k).map (mapDeployments g) := by
  change ((x.clusters.map (Cluster.mapLevels f g))[i]?.bind fun c => c.replicaAt? j k) =
    (x.clusters[i]?.bind fun c => c.replicaAt? j k).map (mapDeployments g)
  rw [List.getElem?_map]
  cases x.clusters[i]? with
  | none => rfl
  | some c => exact c.replicaAt?_mapLevels f g j k

/-- Two changes, one after the other. -/
theorem Spec.mapLevels_mapLevels (f' g' : Deployment → Deployment) (s : Spec) :
    (s.mapLevels f g).mapLevels f' g' = s.mapLevels (f' ∘ f) (g' ∘ g) := by
  have hshard : Shard.mapLevels f' g' ∘ .mapLevels f g = .mapLevels (f' ∘ f) (g' ∘ g) :=
    funext fun _ => Shard.ext rfl rfl rfl rfl (List.map_map)
  have hcluster : Cluster.mapLevels f' g' ∘ .mapLevels f g = .mapLevels (f' ∘ f) (g' ∘ g) := by
    refine funext fun c => Cluster.ext rfl (Layout.ext rfl rfl rfl ?_) rfl
    exact List.map_map.trans (congrArg (c.layout.shards.map ·) hshard)
  refine Spec.ext rfl (congrArg Configuration.mk ?_)
  exact List.map_map.trans (congrArg (s.configuration.clusters.map ·) hcluster)

end Levels

instance : HasDeployments Scope where
  deployments scope := deployments scope.defaults
  mapDeployments f scope := { scope with defaults := mapDeployments f scope.defaults }
  mapDeployments_eq_self_iff f scope := by
    rw [← mapDeployments_eq_self_iff, Scope.ext_iff]
    simp only [true_and]

/-! ### Neutral changes -/

/-- The change `f` of deployments makes no difference to what is inherited, hashed and filled
in, and the change `g` is what becomes of it in a deployment that is stamped afterwards. -/
structure Deployment.NeutralChange (f g : Deployment → Deployment) : Prop where
  /-- There is nothing to change without settings and stamps. -/
  empty : f {} = {}
  /-- What inherits from changed settings is changed. -/
  inherit : ∀ own defaults : Deployment, f (own.inherit defaults) = (f own).inherit (f defaults)
  /-- What is hashed is not changed. -/
  canonical : ∀ d : Deployment, (f d).canonical = d.canonical
  /-- Stamps are put on what is changed. -/
  stamp : ∀ (d : Deployment) (p : Fingerprint) (i : Nat), (f d).stamp p i = g (d.stamp p i)
  /-- The default scenario is filled in where it would be filled in. -/
  completed : ∀ d : Defaults,
    (mapDeployments f d).completed.deployment = f d.completed.deployment

namespace Deployment.NeutralChange

variable {f g : Deployment → Deployment} (h : NeutralChange f g)

include h

/-- Replicas without settings stay as they are. -/
theorem mapDeployments_replicate (count : Nat) :
    mapDeployments f (List.replicate count ({} : Replica)) = List.replicate count {} := by
  have hreplica : mapDeployments f ({} : Replica) = {} := congrArg Replica.mk h.empty
  exact List.map_replicate.trans (congrArg (List.replicate count) hreplica)

/-! ### Layouts -/

theorem generated (cluster : Deployment) (count : Nat) :
    Shard.generated (f cluster) count = mapDeployments f (Shard.generated cluster count) := by
  refine Shard.ext rfl rfl rfl ?_ (h.mapDeployments_replicate count).symm
  change Deployment.inherit {} (f cluster) = f (Deployment.inherit {} cluster)
  rw [h.inherit, h.empty]

theorem shard_completed (cluster : Deployment) (shard : Shard) :
    Shard.completed (f cluster) (mapDeployments f shard) =
      mapDeployments f (Shard.completed cluster shard) := by
  obtain ⟨definitionType, replicasCount, internalReplication, deployment, replicas⟩ := shard
  have hdeployment := (h.inherit deployment cluster).symm
  cases definitionType with
  | replicasCount =>
    exact Shard.ext rfl rfl rfl hdeployment (h.mapDeployments_replicate replicasCount).symm
  | replicas =>
    have hcount : (mapDeployments f replicas).length = replicas.length := List.length_map _
    exact Shard.ext rfl hcount rfl hdeployment rfl

theorem layout_expanded (cluster : Deployment) (layout : Layout) :
    (mapDeployments f layout).expanded (f cluster) =
      mapDeployments f (layout.expanded cluster) := by
  obtain ⟨layoutType, shardsCount, replicasCount, shards⟩ := layout
  cases layoutType with
  | standard =>
    have hshards : List.replicate (effectiveCount shardsCount)
          (Shard.generated (f cluster) (effectiveCount replicasCount)) =
        (List.replicate (effectiveCount shardsCount)
          (Shard.generated cluster (effectiveCount replicasCount))).map (mapDeployments f) := by
      rw [List.map_replicate, h.generated]
    exact Layout.ext rfl rfl rfl hshards
  | advanced =>
    have hshards : (shards.map (mapDeployments f)).map (Shard.completed (f cluster)) =
        (shards.map (Shard.completed cluster)).map (mapDeployments f) := by
      rw [List.map_map, List.map_map]
      exact List.map_congr_left fun shard _ => h.shard_completed cluster shard
    exact Layout.ext rfl rfl rfl hshards

/-! ### Clusters -/

variable (scope : Scope)

theorem scope_fingerprint (d : Deployment) :
    (mapDeployments f scope).fingerprint (f d) = scope.fingerprint d := by
  unfold Scope.fingerprint Deployment.fingerprintIn Deployment.hashInput
  rw [h.canonical]
  rfl

theorem resolveReplica (parent : Deployment) (usage : Usage) (replica : Replica) :
    (mapDeployments f scope).resolveReplica (f parent) usage (mapDeployments f replica) =
      (scope.resolveReplica parent usage replica).map (mapDeployments g) := by
  have hresolved : (mapDeployments f replica).deployment.inherit (f parent) =
      f (replica.deployment.inherit parent) := (h.inherit _ _).symm
  unfold Scope.resolveReplica
  simp only [hresolved, h.scope_fingerprint, h.stamp]
  rfl

theorem resolveShard (usage : Usage) (shard : Shard) :
    (mapDeployments f scope).resolveShard usage (mapDeployments f shard) =
      (scope.resolveShard usage shard).map (.mapLevels f g) := by
  have hrun : Outcome.each ((mapDeployments f scope).resolveReplica (f shard.deployment)) usage
        (shard.replicas.map (mapDeployments f)) =
      (Outcome.each (scope.resolveReplica shard.deployment) usage shard.replicas).map
        (List.map (mapDeployments g)) :=
    Outcome.each_map_comm (h.resolveReplica scope shard.deployment) usage shard.replicas
  exact congrArg (Outcome.map fun replicas => { mapDeployments f shard with replicas }) hrun

theorem resolveLayout (cluster : Deployment) (layout : Layout) :
    (mapDeployments f scope).resolveLayout (f cluster) (mapDeployments f layout) =
      (scope.resolveLayout cluster layout).map (.mapLevels f g) := by
  have hrun : Outcome.each (mapDeployments f scope).resolveShard .empty
        ((layout.expanded cluster).shards.map (mapDeployments f)) =
      (Outcome.each scope.resolveShard .empty (layout.expanded cluster).shards).map
        (List.map (.mapLevels f g)) :=
    Outcome.each_map_comm (h.resolveShard scope) .empty _
  unfold Scope.resolveLayout
  rw [h.layout_expanded]
  exact congrArg (Outcome.map fun shards =>
    { mapDeployments f (layout.expanded cluster) with shards }) hrun

theorem clusterDeployment (cluster : Cluster) :
    (mapDeployments f scope).clusterDeployment (mapDeployments f cluster) =
      f (scope.clusterDeployment cluster) := by
  obtain ⟨namespaceName, name, defaults⟩ := scope
  cases defaults with
  | none => rfl
  | some defaults => exact (h.inherit cluster.deployment defaults).symm

/-- **A neutral change before the normalization of a cluster is one after it**, with the same
usage and the same events. -/
theorem normalize_cluster (cluster : Cluster) :
    (mapDeployments f scope).normalize (mapDeployments f cluster) =
      (scope.normalize cluster).map (.mapLevels f g) := by
  have hlayout : (mapDeployments f scope).resolveLayout
        ((mapDeployments f scope).clusterDeployment (mapDeployments f cluster))
        (mapDeployments f cluster).layout =
      (scope.resolveLayout (scope.clusterDeployment cluster) cluster.layout).map
        (.mapLevels f g) := by
    rw [h.clusterDeployment]
    exact h.resolveLayout scope _ cluster.layout
  -- the event of the cluster tells the number of shards, which stays
  have hcount : ∀ layout : Layout, (layout.mapLevels f g).shards.length = layout.shards.length :=
    fun layout => List.length_map _
  rw [Scope.normalize_eq, Scope.normalize_eq, hlayout, h.clusterDeployment]
  simp only [Outcome.value_map, hcount]
  rfl

theorem normalizeInto (usage : Usage) (cluster : Cluster) :
    (mapDeployments f scope).normalizeInto usage (mapDeployments f cluster) =
      (scope.normalizeInto usage cluster).map (.mapLevels f g) := by
  unfold Scope.normalizeInto
  rw [h.normalize_cluster]
  rfl

/-! ### Installations -/

theorem completeDefaults (x : Installation) :
    (mapDeployments f x).completeDefaults = mapDeployments f x.completeDefaults := by
  have hdefaults : (mapDeployments f x).spec.defaults.completed =
      mapDeployments f x.spec.defaults.completed := Defaults.ext rfl (h.completed x.spec.defaults)
  exact Installation.ext rfl (Spec.ext hdefaults rfl)

/-- **A neutral change before a normalization is one after it**, with the same usage and the
same events. -/
theorem normalize (x : Installation) :
    (mapDeployments f x).normalize = x.normalize.map (.mapLevels f g) := by
  have hrun : Outcome.each (mapDeployments f x.completeDefaults).scope.normalizeInto .empty
        (mapDeployments f x.completeDefaults).clusters =
      (Outcome.each x.completeDefaults.scope.normalizeInto .empty x.completeDefaults.clusters).map
        (List.map (.mapLevels f g)) :=
    Outcome.each_map_comm (h.normalizeInto x.completeDefaults.scope) .empty _
  unfold Installation.normalize
  rw [h.completeDefaults]
  simp only [hrun]
  rfl

end Deployment.NeutralChange

end ClusterTopology
