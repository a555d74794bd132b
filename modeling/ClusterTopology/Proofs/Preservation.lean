import ClusterTopology.Proofs.Absorption

/-!
# What a normalization leaves as it was

A normalization fills in what an installation leaves open and never puts anything else in
place of what is given.  For each level, a relation says what is kept of it: the settings
that are set, the flags that are given, the counts that count, and the lists below it,
item by item in their order.  A list that only follows from the counts, as the shards of a
standard layout and the replicas of a shard given by their number, is made anew.

## Main definitions

* `Deployment.SettingsKept` — the settings that one deployment sets are those of another.
* `Deployment.Kept`, `Replica.Kept`, `Shard.Kept`, `Layout.Kept`, `Cluster.Kept`,
  `Defaults.Kept`, `Installation.Kept` — what is kept of each level.

## Main results

* `Deployment.kept_inherit` — inheriting keeps what is set.
* `Shard.kept_resolveShard_completed`, `Layout.kept_resolveLayout`, `Cluster.kept_normalize` —
  what each step keeps.
* `Installation.normalize_keeps` — **a normalization fills in and never overrides.**
-/

namespace ClusterTopology

/-! ### What is kept of each level -/

/-- Every setting that `x` sets, `y` has with the same value.  A text is set if it is not
empty, and a zone if it has labels, of which then all are kept and no others are added. -/
structure Deployment.SettingsKept (x y : Deployment) : Prop where
  podTemplate : ∀ s ≠ "", x.podTemplate = some s → y.podTemplate = some s
  volumeClaimTemplate :
    ∀ s ≠ "", x.volumeClaimTemplate = some s → y.volumeClaimTemplate = some s
  scenario : ∀ s ≠ "", x.scenario = some s → y.scenario = some s
  zone : x.zone.matchLabels ≠ .empty → y.zone = x.zone

/-- The settings that are set are kept, and the stamps in any case. -/
structure Deployment.Kept (x y : Deployment) : Prop extends x.SettingsKept y where
  fingerprint : y.fingerprint = x.fingerprint
  index : y.index = x.index

/-- A replica is stamped anew, so that only its settings are kept. -/
structure Replica.Kept (x y : Replica) : Prop where
  settings : x.deployment.SettingsKept y.deployment

/-- Of a listed shard only the count or the list of its replicas is kept, whichever it is
given by. -/
structure Shard.Kept (x y : Shard) : Prop where
  definitionType : y.definitionType = x.definitionType
  replicasCount : x.definitionType = .replicasCount → y.replicasCount = x.replicasCount
  internalReplication :
    ∀ flag, x.internalReplication = some flag → y.internalReplication = some flag
  deployment : x.deployment.Kept y.deployment
  replicas : x.definitionType = .replicas → List.Forall₂ Replica.Kept x.replicas y.replicas

/-- A count of zero in a standard layout stands for none given; the shards of such a layout
are not kept. -/
structure Layout.Kept (x y : Layout) : Prop where
  layoutType : y.layoutType = x.layoutType
  shardsCount :
    x.layoutType = .advanced ∨ x.shardsCount ≠ 0 → y.shardsCount = x.shardsCount
  replicasCount :
    x.layoutType = .advanced ∨ x.replicasCount ≠ 0 → y.replicasCount = x.replicasCount
  shards : x.layoutType = .advanced → List.Forall₂ Shard.Kept x.shards y.shards

/-- What is kept of a cluster. -/
structure Cluster.Kept (x y : Cluster) : Prop where
  name : y.name = x.name
  layout : x.layout.Kept y.layout
  deployment : x.deployment.Kept y.deployment

/-- What is kept of the settings for all clusters: everything but a flag that is not given
and a scenario that is not set. -/
structure Defaults.Kept (x y : Defaults) : Prop where
  replicasUseFqdn : ∀ flag, x.replicasUseFqdn = some flag → y.replicasUseFqdn = some flag
  deployment : y.deployment = { x.deployment with scenario := y.deployment.scenario }
  scenario : ∀ s ≠ "", x.deployment.scenario = some s → y.deployment.scenario = some s

/-- What is kept of an installation. -/
structure Installation.Kept (x y : Installation) : Prop where
  metadata : y.metadata = x.metadata
  defaults : x.spec.defaults.Kept y.spec.defaults
  clusters : List.Forall₂ Cluster.Kept x.clusters y.clusters

/-! ### Deployments -/

/-- A text that is set is not overridden by the one above it. -/
theorem inherit_eq_some {own : Option String} {s : String} (hs : s ≠ "") (hown : own = some s)
    (defaults : Option String) : Layered.inherit own defaults = some s := by
  have hset : ¬ leavesOpen own = true := by
    rw [hown, leavesOpen_some_string]
    exact fun h => hs (String.isEmpty_iff.mp h)
  rw [inherit_option, if_neg hset, hown]

theorem Zone.inherit_eq_self {own : Zone} (h : own.matchLabels ≠ .empty) (defaults : Zone) :
    Layered.inherit own defaults = own := by
  have hset : ¬ own.matchLabels.isEmpty = true := fun hempty => h (SortedMap.isEmpty_iff.mp hempty)
  refine Zone.ext ?_
  change Layered.inherit own.matchLabels defaults.matchLabels = own.matchLabels
  rw [inherit_labels, if_neg hset]

namespace Deployment

theorem settingsKept_inherit (own defaults : Deployment) :
    own.SettingsKept (own.inherit defaults) where
  podTemplate _ hs h := inherit_eq_some hs h _
  volumeClaimTemplate _ hs h := inherit_eq_some hs h _
  scenario _ hs h := inherit_eq_some hs h _
  zone h := Zone.inherit_eq_self h _

/-- Inheriting keeps what is set, and the stamps. -/
theorem kept_inherit (own defaults : Deployment) : own.Kept (own.inherit defaults) where
  toSettingsKept := settingsKept_inherit own defaults
  fingerprint := rfl
  index := rfl

theorem Kept.refl (d : Deployment) : d.Kept d :=
  ⟨⟨fun _ _ h => h, fun _ _ h => h, fun _ _ h => h, fun _ => rfl⟩, rfl, rfl⟩

/-- Stamps are no settings. -/
theorem SettingsKept.stamp {x y : Deployment} (h : x.SettingsKept y) (f : Fingerprint)
    (index : Nat) : x.SettingsKept (y.stamp f index) :=
  ⟨h.podTemplate, h.volumeClaimTemplate, h.scenario, h.zone⟩

end Deployment

/-! ### Steps -/

theorem Replica.kept_resolveReplica (scope : Scope) (parent : Deployment) (usage : Usage)
    (replica : Replica) : replica.Kept (scope.resolveReplica parent usage replica).value where
  settings := (Deployment.settingsKept_inherit replica.deployment parent).stamp _ _

/-- A listed shard that is completed and resolved keeps its replicas if it lists them, and
the count of them if it does not. -/
theorem Shard.kept_resolveShard_completed (scope : Scope) (cluster : Deployment) (usage : Usage)
    (shard : Shard) : shard.Kept (scope.resolveShard usage (.completed cluster shard)).value where
  definitionType := rfl
  replicasCount htype := by
    change (Shard.completed cluster shard).replicasCount = _
    unfold Shard.completed
    rw [htype]
  internalReplication flag h := by
    change some (shard.internalReplication.getD Flag.absent) = _
    rw [h, Option.getD_some]
  deployment := Deployment.kept_inherit shard.deployment cluster
  replicas htype := by
    rw [← Shard.replicas_completed_of_listed cluster htype]
    exact Outcome.forall₂_value_each
      (Replica.kept_resolveReplica scope (Shard.completed cluster shard).deployment) usage _

/-- A resolved layout keeps the counts that count and the shards that are listed. -/
theorem Layout.kept_resolveLayout (scope : Scope) (cluster : Deployment) (layout : Layout) :
    layout.Kept (scope.resolveLayout cluster layout).value := by
  cases htype : layout.layoutType with
  | standard =>
    have hcounts : (scope.resolveLayout cluster layout).value.shardsCount =
          effectiveCount layout.shardsCount ∧
        (scope.resolveLayout cluster layout).value.replicasCount =
          effectiveCount layout.replicasCount := by
      unfold Scope.resolveLayout
      rw [Layout.expanded_of_standard cluster htype]
      exact ⟨rfl, rfl⟩
    refine ⟨scope.layoutType_resolveLayout cluster layout, ?shardsCount, ?replicasCount, ?shards⟩
    case shardsCount =>
      rintro (hadvanced | hcount)
      · simp [htype] at hadvanced
      · rw [hcounts.1, effectiveCount_of_ne_zero hcount]
    case replicasCount =>
      rintro (hadvanced | hcount)
      · simp [htype] at hadvanced
      · rw [hcounts.2, effectiveCount_of_ne_zero hcount]
    case shards =>
      intro hadvanced
      simp [htype] at hadvanced
  | advanced =>
    rw [scope.resolveLayout_of_advanced cluster htype]
    exact ⟨htype.symm, fun _ => rfl, fun _ => rfl, fun _ =>
      Outcome.forall₂_value_each (Shard.kept_resolveShard_completed scope cluster) .empty _⟩

theorem Cluster.kept_normalize (scope : Scope) (cluster : Cluster) :
    cluster.Kept (scope.normalize cluster).value where
  name := rfl
  layout := Layout.kept_resolveLayout scope (scope.clusterDeployment cluster) cluster.layout
  deployment := by
    change cluster.deployment.Kept (Layered.inheritOption cluster.deployment scope.defaults)
    cases scope.defaults with
    | none => exact .refl cluster.deployment
    | some defaults => exact Deployment.kept_inherit cluster.deployment defaults

/-! ### Installations -/

theorem Defaults.kept_completed (defaults : Defaults) : defaults.Kept defaults.completed where
  replicasUseFqdn flag h := by
    change some (defaults.replicasUseFqdn.getD Flag.absent) = _
    rw [h, Option.getD_some]
  deployment := rfl
  scenario _ hs h := inherit_eq_some hs h _

/-- **A normalization fills in and never overrides.**  It keeps the metadata and, of the
defaults, all but a flag that is not given and a scenario that is not set.  The clusters are
the same ones in the same order, with their names, the types and the given counts of their
layouts, and the settings and stamps of their deployments; so are the shards of advanced
layouts, with all that is given of them, and the settings of the replicas that shards list. -/
theorem Installation.normalize_keeps (x : Installation) : x.Kept x.normalize.value where
  metadata := rfl
  defaults := x.spec.defaults.kept_completed
  clusters := by
    rw [clusters_normalize, List.forall₂_map_right_iff, List.forall₂_same]
    intro cluster _
    exact Cluster.kept_normalize x.completedScope cluster

end ClusterTopology
