import ClusterTopology.Proofs.Layers
import ClusterTopology.Proofs.Runs

/-!
# Steps taken on their own

The steps of a normalization are available on their own.  They leave trees that are
settled in part: settings taken over ahead of time, even before the defaults are
filled in, and stamps counted from the wrong usage.  A normalization afterwards comes
to the same result as one of the original installation.

What makes this hold is that settings are only ever taken over from a level that the
normalization would have taken them from anyway, in an order that it would not have
changed: every level that was settled ahead of time is **anticipated** by the level
that the normalization puts in its place.

## Main definitions

* `Operation`, `Installation.apply` — the steps that may be taken on their own.
* `Scope.resolveLayout` — the part of a normalization that concerns the layout.
* `Scope.Anticipates` — a scope settles what another one would settle later.

## Main results

* `Scope.normalize_normalize`, `Scope.normalize_resolveShard` — a cluster that was
  settled in part is normalized like the original one.
* `Installation.normalize_apply` — a step makes no difference to a normalization.
* `Installation.normalize_foldl_apply` — **no sequence of steps makes a difference to
  a normalization.**
-/

namespace ClusterTopology

/-! ### Shards -/

/-- A shard settled below a level, and then below one that anticipates it. -/
theorem Shard.completed_completed {a b : Deployment} (h : Layered.Anticipates a b) (s : Shard) :
    Shard.completed b (Shard.completed a s) = Shard.completed b s := by
  have hdeployment : (s.deployment.inherit a).inherit b = s.deployment.inherit b :=
    h s.deployment
  unfold Shard.completed
  cases s.definitionType <;> rw [hdeployment] <;> rfl

namespace Scope

variable (scope first : Scope)

theorem resolveReplica_resolveReplica {a b : Deployment} (h : Layered.Anticipates a b)
    (u v : Usage) (r : Replica) :
    scope.resolveReplica b u (first.resolveReplica a v r).value = scope.resolveReplica b u r := by
  have hdeployment : (r.deployment.inherit a).inherit b = r.deployment.inherit b :=
    h r.deployment
  unfold resolveReplica
  simp only [Deployment.stamp_inherit, hdeployment, fingerprint_stamp, Deployment.stamp_stamp]

/-- A shard that was resolved on its own, before it inherits from the cluster. -/
theorem resolveShard_completed_resolveShard (cluster : Deployment) (u v : Usage) (s : Shard) :
    scope.resolveShard u (Shard.completed cluster (first.resolveShard v s).value) =
      scope.resolveShard u (Shard.completed cluster s) := by
  unfold Shard.completed resolveShard
  cases hdef : s.definitionType with
  | replicasCount =>
    -- the replicas that were resolved are dropped for new ones
    simp only [Outcome.value_map]
  | replicas =>
    have hahead : Layered.Anticipates s.deployment (s.deployment.inherit cluster) :=
      Layered.anticipates_inherit s.deployment cluster
    have hreplicas := Outcome.each_value_each
      (scope.resolveReplica_resolveReplica first hahead) u v s.replicas
    simp only [Outcome.value_map, hreplicas, Outcome.length_value_each]

/-! ### Layouts -/

/-- The layout with all shards resolved, below the deployment of the cluster. -/
def resolveLayout (cluster : Deployment) (layout : Layout) : Outcome Layout :=
  let expanded := layout.expanded cluster
  (Outcome.each scope.resolveShard .empty expanded.shards).map
    fun shards => { expanded with shards }

theorem normalize_eq (cluster : Cluster) :
    let o := scope.resolveLayout (scope.clusterDeployment cluster) cluster.layout
    scope.normalize cluster =
      ⟨⟨cluster.name, o.value, scope.clusterDeployment cluster⟩, o.usage,
        o.events ++ [.normalizedCluster cluster.name o.value.layoutType o.value.shards.length
          o.usage.size]⟩ := rfl

@[simp] theorem layoutType_resolveLayout (cluster : Deployment) (l : Layout) :
    (scope.resolveLayout cluster l).value.layoutType = l.layoutType :=
  layoutType_expanded cluster l

/-- A standard layout is resolved by its counts. -/
theorem resolveLayout_of_standard (cluster : Deployment) {l m : Layout}
    (hl : l.layoutType = .standard) (hm : m.layoutType = .standard)
    (hshards : effectiveCount m.shardsCount = effectiveCount l.shardsCount)
    (hreplicas : effectiveCount m.replicasCount = effectiveCount l.replicasCount) :
    scope.resolveLayout cluster m = scope.resolveLayout cluster l := by
  unfold resolveLayout
  rw [Layout.expanded_of_standard cluster hl, Layout.expanded_of_standard cluster hm, hshards,
    hreplicas]

/-- The shards of an advanced layout, each completed and then resolved. -/
def resolveListed (cluster : Deployment) (shards : List Shard) : Outcome (List Shard) :=
  Outcome.each (fun u s => scope.resolveShard u (.completed cluster s)) .empty shards

/-- An advanced layout is resolved by its shards. -/
theorem resolveLayout_of_advanced (cluster : Deployment) {l : Layout}
    (hl : l.layoutType = .advanced) :
    scope.resolveLayout cluster l =
      (scope.resolveListed cluster l.shards).map fun shards =>
        ⟨.advanced, l.shardsCount, l.replicasCount, shards⟩ := by
  unfold resolveLayout resolveListed
  rw [Layout.expanded_of_advanced cluster hl]
  simp only [Outcome.each_map, hl]

/-- A layout resolved below a level, and then below one that anticipates it. -/
theorem resolveLayout_resolveLayout {a b : Deployment} (h : Layered.Anticipates a b)
    (l : Layout) :
    scope.resolveLayout b (first.resolveLayout a l).value = scope.resolveLayout b l := by
  cases hl : l.layoutType with
  | standard =>
    -- the shards of the first layout are dropped, and its counts are effective already
    have hfirst : (first.resolveLayout a l).value.layoutType = .standard := by
      rw [layoutType_resolveLayout, hl]
    apply resolveLayout_of_standard scope b hl hfirst
    · simp only [resolveLayout, Layout.expanded_of_standard a hl, Outcome.value_map,
        effectiveCount_effectiveCount]
    · simp only [resolveLayout, Layout.expanded_of_standard a hl, Outcome.value_map,
        effectiveCount_effectiveCount]
  | advanced =>
    have hstep : ∀ u v s,
        scope.resolveShard u (Shard.completed b
          (first.resolveShard v (Shard.completed a s)).value) =
          scope.resolveShard u (Shard.completed b s) := by
      intro u v s
      rw [resolveShard_completed_resolveShard, Shard.completed_completed h]
    have hlisted : scope.resolveListed b (first.resolveListed a l.shards).value =
        scope.resolveListed b l.shards := Outcome.each_value_each hstep .empty .empty l.shards
    rw [first.resolveLayout_of_advanced a hl, Outcome.value_map,
      scope.resolveLayout_of_advanced b rfl, hlisted, scope.resolveLayout_of_advanced b hl]

theorem resolveLayout_set (cluster : Deployment) {l : Layout} {j : Nat} {s : Shard}
    (hs : l.shards[j]? = some s) (v : Usage) :
    scope.resolveLayout cluster
        { l with shards := l.shards.set j (first.resolveShard v s).value } =
      scope.resolveLayout cluster l := by
  cases hl : l.layoutType with
  | standard => exact resolveLayout_of_standard scope cluster hl rfl rfl rfl
  | advanced =>
    have hlisted : scope.resolveListed cluster (l.shards.set j (first.resolveShard v s).value) =
        scope.resolveListed cluster l.shards :=
      Outcome.each_set hs (fun u => scope.resolveShard_completed_resolveShard first cluster u v s)
        .empty
    rw [scope.resolveLayout_of_advanced cluster rfl, hlisted,
      scope.resolveLayout_of_advanced cluster hl]

/-! ### Clusters -/

/-- What the first scope settles, the second one would settle in the same way. -/
structure Anticipates (first second : Scope) : Prop where
  /-- A cluster inherits from the second scope as if the first had not been there. -/
  again : ∀ own : Deployment,
    Layered.inheritOption (Layered.inheritOption own first.defaults) second.defaults =
      Layered.inheritOption own second.defaults
  /-- So does a shard from the cluster. -/
  ahead : ∀ own : Deployment,
    Layered.Anticipates (Layered.inheritOption own first.defaults)
      (Layered.inheritOption own second.defaults)

/-- A scope settles everything as it would settle it later. -/
theorem Anticipates.refl : scope.Anticipates scope := by
  obtain ⟨namespaceName, name, defaults⟩ := scope
  cases defaults with
  | none => exact ⟨fun own => rfl, fun own => Layered.Anticipates.refl own⟩
  | some defaults =>
    have h := Layered.Anticipates.refl defaults
    exact ⟨fun own => h own, fun own => h.inherit own⟩

variable {scope first}

/-- **A cluster that was normalized within another scope is normalized like the original
one**, with the same usage. -/
theorem normalize_normalize (h : first.Anticipates scope) (cluster : Cluster) :
    scope.normalize (first.normalize cluster).value = scope.normalize cluster := by
  have hdeployment : scope.clusterDeployment (first.normalize cluster).value =
      scope.clusterDeployment cluster := h.again cluster.deployment
  have hlayout : scope.resolveLayout (scope.clusterDeployment cluster)
        (first.normalize cluster).value.layout =
      scope.resolveLayout (scope.clusterDeployment cluster) cluster.layout :=
    scope.resolveLayout_resolveLayout first (h.ahead cluster.deployment) cluster.layout
  rw [normalize_eq scope (first.normalize cluster).value, hdeployment, hlayout]
  rfl

/-- A cluster of which one shard was resolved on its own is normalized like the original
one. -/
theorem normalize_resolveShard {cluster : Cluster} {j : Nat} {s : Shard}
    (hs : cluster.layout.shards[j]? = some s) (v : Usage) :
    scope.normalize { cluster with
        layout := { cluster.layout with
          shards := cluster.layout.shards.set j (first.resolveShard v s).value } } =
      scope.normalize cluster := by
  rw [normalize_eq scope cluster, ← scope.resolveLayout_set first _ hs v]
  rfl

/-- Clusters that are normalized alike are merged alike into a usage. -/
theorem normalizeInto_congr {c d : Cluster} (h : scope.normalize c = scope.normalize d)
    (u : Usage) : scope.normalizeInto u c = scope.normalizeInto u d := by
  unfold normalizeInto
  rw [h]

end Scope

/-! ### Defaults -/

/-- Whoever inherits from the completed defaults may inherit from the given ones first. -/
theorem Defaults.anticipates_completed (d : Defaults) :
    Layered.Anticipates d.deployment d.completed.deployment := by
  apply Layered.Anticipates.of_inherit_eq
  refine Deployment.ext (inherit_self _) (inherit_self _) ?_ (inherit_self _) rfl rfl
  change Layered.inherit d.deployment.scenario (Layered.inherit d.deployment.scenario _) = _
  rw [← inherit_assoc, inherit_self]
  rfl

theorem Defaults.completed_completed (d : Defaults) : d.completed.completed = d.completed := by
  have hscenario : Layered.inherit d.completed.deployment.scenario (some defaultScenario) =
      d.completed.deployment.scenario := by
    change Layered.inherit (Layered.inherit d.deployment.scenario _) _ = _
    rw [inherit_assoc, inherit_self]
    rfl
  unfold Defaults.completed at hscenario ⊢
  simp only [hscenario]
  rfl

namespace Installation

/-! ### Steps on their own -/

/-- A step of a normalization that may be taken on its own. -/
inductive Operation
  /-- The defaults are filled in. -/
  | completeDefaults
  /-- The cluster at index `i` is normalized, below the defaults as they are or below
  none. -/
  | normalizeCluster (withDefaults : Bool) (i : Nat)
  /-- Shard `j` of the cluster at index `i` is resolved, from any usage. -/
  | resolveShard (withDefaults : Bool) (usage : Usage) (i j : Nat)
  /-- The whole installation is normalized. -/
  | normalize

/-- The installation as a scope, with its deployment for all clusters or without. -/
def scopeWith (x : Installation) (withDefaults : Bool) : Scope :=
  if withDefaults then x.scope else x.bareScope

/-- The installation after a step; one without a cluster or a shard for it stays as it
is. -/
def apply (x : Installation) : Operation → Installation
  | .completeDefaults => x.completeDefaults
  | .normalizeCluster withDefaults i =>
    ((x.normalizeAt (x.scopeWith withDefaults) i).map (·.value)).getD x
  | .resolveShard withDefaults usage i j =>
    ((x.resolveShardAt (x.scopeWith withDefaults) usage i j).map (·.value)).getD x
  | .normalize => x.normalize.value

variable (x : Installation)

/-- What an installation settles with its defaults, as they are or filled in, or with
none, a normalization would settle in the same way. -/
theorem anticipates_scopeWith (withDefaults : Bool) :
    (x.scopeWith withDefaults).Anticipates x.completedScope := by
  cases withDefaults with
  | false =>
    -- the cluster keeps its own deployment, which is the first part of what it will have
    exact ⟨fun own => rfl, fun own => Layered.anticipates_inherit own _⟩
  | true =>
    have h := x.spec.defaults.anticipates_completed
    exact ⟨fun own => h own, fun own => h.inherit own⟩

theorem completeDefaults_completeDefaults :
    x.completeDefaults.completeDefaults = x.completeDefaults := by
  unfold completeDefaults
  simp only [Defaults.completed_completed]

theorem normalize_completeDefaults : x.completeDefaults.normalize = x.normalize := by
  unfold normalize
  rw [completeDefaults_completeDefaults]
  rfl

/-- An installation is normalized by a run over its clusters. -/
theorem normalize_withClusters {x : Installation} {clusters : List Cluster}
    (h : Outcome.each x.completedScope.normalizeInto .empty clusters =
      Outcome.each x.completedScope.normalizeInto .empty x.clusters) :
    (x.withClusters clusters).normalize = x.normalize := by
  have hrun : Outcome.each (x.withClusters clusters).completeDefaults.scope.normalizeInto .empty
      (x.withClusters clusters).completeDefaults.clusters =
      Outcome.each x.completeDefaults.scope.normalizeInto .empty x.completeDefaults.clusters := h
  unfold normalize
  simp only [hrun]
  rfl

theorem normalize_set {x : Installation} {i : Nat} {old new : Cluster}
    (hold : x.clusters[i]? = some old)
    (h : x.completedScope.normalize new = x.completedScope.normalize old) :
    (x.withClusters (x.clusters.set i new)).normalize = x.normalize := by
  apply normalize_withClusters
  exact Outcome.each_set hold (Scope.normalizeInto_congr h) .empty

/-- An installation that was normalized is normalized like the original one. -/
theorem normalize_normalize : x.normalize.value.normalize = x.normalize := by
  have hstep : ∀ u v cluster,
      x.completedScope.normalizeInto u (x.completedScope.normalizeInto v cluster).value =
        x.completedScope.normalizeInto u cluster := by
    intro u v cluster
    have hcluster := Scope.normalize_normalize (.refl x.completedScope) cluster
    exact Scope.normalizeInto_congr hcluster u
  have hrun := Outcome.each_value_each hstep .empty .empty x.clusters
  calc x.normalize.value.normalize
      = (x.completeDefaults.withClusters
          (Outcome.each x.completedScope.normalizeInto .empty x.clusters).value).normalize := rfl
    _ = x.completeDefaults.normalize := by
        apply normalize_withClusters
        rw [completedScope, completeDefaults_completeDefaults]
        exact hrun
    _ = x.normalize := x.normalize_completeDefaults

variable {x}

theorem normalize_normalizeAt {scope : Scope} (h : scope.Anticipates x.completedScope) {i : Nat}
    {o : Outcome Installation} (ho : x.normalizeAt scope i = some o) :
    o.value.normalize = x.normalize := by
  obtain ⟨cluster, hcluster, rfl⟩ := Option.map_eq_some_iff.mp ho
  exact normalize_set hcluster (Scope.normalize_normalize h cluster)

theorem normalize_resolveShardAt {scope : Scope} {usage : Usage} {i j : Nat}
    {o : Outcome Installation} (ho : x.resolveShardAt scope usage i j = some o) :
    o.value.normalize = x.normalize := by
  obtain ⟨cluster, hcluster, ho⟩ := Option.bind_eq_some_iff.mp ho
  obtain ⟨shard, hshard, rfl⟩ := Option.map_eq_some_iff.mp ho
  exact normalize_set hcluster (Scope.normalize_resolveShard hshard usage)

/-- A step that finds nothing to do leaves the installation as it is. -/
theorem normalize_getD {o? : Option (Outcome Installation)}
    (h : ∀ o, o? = some o → o.value.normalize = x.normalize) :
    ((o?.map (·.value)).getD x).normalize = x.normalize := by
  cases o? with
  | none => rfl
  | some o => exact h o rfl

variable (x)

/-- A step makes no difference to a normalization. -/
theorem normalize_apply (op : Operation) : (x.apply op).normalize = x.normalize := by
  cases op with
  | completeDefaults => exact x.normalize_completeDefaults
  | normalizeCluster withDefaults i =>
    exact normalize_getD fun _ => normalize_normalizeAt (x.anticipates_scopeWith withDefaults)
  | resolveShard withDefaults usage i j =>
    exact normalize_getD fun _ => normalize_resolveShardAt
  | normalize => exact x.normalize_normalize

/-- **No sequence of steps makes a difference to a normalization**: neither to the
installation nor to its usage. -/
theorem normalize_foldl_apply (ops : List Operation) :
    (ops.foldl apply x).normalize = x.normalize := by
  induction ops generalizing x with
  | nil => rfl
  | cons op ops ih => rw [List.foldl_cons, ih, normalize_apply]

end Installation

end ClusterTopology
