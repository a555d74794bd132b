import ClusterTopology.Proofs.Naming
import ClusterTopology.Proofs.Settings
import Mathlib.Order.Monotone.Defs

/-!
# Growing installations

An installation grows by new clusters anywhere among the others, by new shards after
those of a cluster, and by new replicas in the shard that was its last one.  All that is
new in a cluster is then resolved after what was there before, and clusters do not look
at each other.  So what was there before is resolved as before: each replica keeps its
settings, its stamps and thereby its ID.

## Main definitions

* `ExtendedBy` — lists with new items at their ends, and perhaps a changed last one.
* `Shard.Grown`, `Cluster.Grown`, `Installation.Grown` — what has grown.

## Main results

* `Outcome.extendedBy_value_each` — a run over an extended list has extended values.
* `Cluster.Grown.expandedShards` — a grown cluster has its shards, of which at most the
  last one has grown, before any new ones.
* `Scope.replicaAt?_normalize_of_grown`, `Scope.get_usage_normalize_le` — what a cluster keeps.
* `Installation.normalize_grown` — **growing renames nothing and needs no fewer instances.**
-/

namespace ClusterTopology

/-! ### Extended lists -/

theorem getElem?_of_isPrefix {α : Type} {xs ys : List α} (h : xs <+: ys) {i : Nat} {a : α}
    (ha : xs[i]? = some a) : ys[i]? = some a := by
  obtain ⟨hi, rfl⟩ := List.getElem?_eq_some_iff.mp ha
  exact List.prefix_iff_getElem?.mp h i hi

/-- A list with new items after its last one, which may have changed as `R` allows. -/
inductive ExtendedBy {α : Type} (R : α → α → Prop) : List α → List α → Prop
  /-- Every item stays as it is. -/
  | append (items more : List α) : ExtendedBy R items (items ++ more)
  /-- The last item changes. -/
  | last (items : List α) {a b : α} (more : List α) (h : R a b) :
    ExtendedBy R (items ++ [a]) (items ++ b :: more)

namespace ExtendedBy

variable {α β : Type} {R : α → α → Prop} {xs ys : List α}

theorem of_isPrefix (h : xs <+: ys) : ExtendedBy R xs ys := by
  obtain ⟨more, rfl⟩ := h
  exact .append xs more

theorem map {S : β → β → Prop} {f : α → β} (hf : ∀ a b, R a b → S (f a) (f b))
    (h : ExtendedBy R xs ys) : ExtendedBy S (xs.map f) (ys.map f) := by
  cases h with
  | append =>
    rw [List.map_append]
    exact .append _ _
  | last items more hab =>
    rw [List.map_append, List.map_append]
    exact .last _ _ (hf _ _ hab)

/-- Parts that are listed for the items are listed first for the extended list. -/
theorem prefix_flatMap {f : α → List β} (hf : ∀ a b, R a b → f a <+: f b)
    (h : ExtendedBy R xs ys) : xs.flatMap f <+: ys.flatMap f := by
  cases h with
  | append =>
    rw [List.flatMap_append]
    exact List.prefix_append _ _
  | @last items a b more hab =>
    rw [List.flatMap_append, List.flatMap_append, List.flatMap_singleton, List.flatMap_cons]
    exact (List.prefix_append_right_inj _).mpr ((hf a b hab).trans (List.prefix_append _ _))

/-- What stands at an index still stands there, or what it was changed to does. -/
theorem exists_of_getElem? (h : ExtendedBy R xs ys) {i : Nat} {a : α} (ha : xs[i]? = some a) :
    ∃ b, ys[i]? = some b ∧ (b = a ∨ R a b) := by
  cases h with
  | append => exact ⟨a, getElem?_of_isPrefix (List.prefix_append _ _) ha, .inl rfl⟩
  | @last items c d more hcd =>
    rw [List.getElem?_append] at ha ⊢
    by_cases hi : i < items.length
    · rw [if_pos hi] at ha ⊢
      exact ⟨a, ha, .inl rfl⟩
    · rw [if_neg hi] at ha ⊢
      rw [List.getElem?_singleton, Option.ite_none_right_eq_some, Option.some.injEq] at ha
      obtain ⟨hzero, rfl⟩ := ha
      rw [hzero]
      exact ⟨d, rfl, .inr hcd⟩

end ExtendedBy

/-- **A run over an extended list has extended values**, if a step for a changed item has a
changed value.  The items before it are not affected, nor are the usages they leave. -/
theorem Outcome.extendedBy_value_each {α β : Type} {step : Usage → α → Outcome β}
    {R : α → α → Prop} {S : β → β → Prop}
    (h : ∀ u a b, R a b → S (step u a).value (step u b).value) (usage : Usage) {xs ys : List α}
    (hxs : ExtendedBy R xs ys) :
    ExtendedBy S (each step usage xs).value (each step usage ys).value := by
  cases hxs with
  | append =>
    rw [value_each_append]
    exact .append _ _
  | last items more hab =>
    rw [value_each_append, value_each_append]
    exact .last _ _ (h _ _ _ hab)

theorem Outcome.prefix_value_each {α β : Type} (step : Usage → α → Outcome β) (usage : Usage)
    {xs ys : List α} (h : xs <+: ys) :
    (each step usage xs).value <+: (each step usage ys).value := by
  obtain ⟨more, rfl⟩ := h
  rw [value_each_append]
  exact List.prefix_append _ _

/-! ### What has grown -/

/-- A shard with new replicas after those it lists, or with a larger count of them. -/
inductive Shard.Grown : Shard → Shard → Prop
  | listed (shard : Shard) (more : List Replica) (h : shard.definitionType = .replicas) :
    Shard.Grown shard { shard with replicas := shard.replicas ++ more }
  | counted (shard : Shard) {count : Nat} (h : shard.definitionType = .replicasCount)
    (hcount : shard.replicasCount ≤ count) :
    Shard.Grown shard { shard with replicasCount := count }

/-- A cluster with a larger count of shards, or with new ones after those it lists, of which
the last one may have grown. -/
inductive Cluster.Grown : Cluster → Cluster → Prop
  | standard (cluster : Cluster) {count : Nat} (h : cluster.layout.layoutType = .standard)
    (hcount : effectiveCount cluster.layout.shardsCount ≤ effectiveCount count) :
    Cluster.Grown cluster { cluster with layout := { cluster.layout with shardsCount := count } }
  | advanced (cluster : Cluster) {shards : List Shard} (h : cluster.layout.layoutType = .advanced)
    (hshards : ExtendedBy Shard.Grown cluster.layout.shards shards) :
    Cluster.Grown cluster { cluster with layout := { cluster.layout with shards } }

/-- An installation with new clusters among the ones it had, which may have grown.  The
cluster at index `i` has come to stand at `place i`. -/
structure Installation.Grown (place : Nat → Nat) (x y : Installation) : Prop where
  /-- It is in the same namespace. -/
  namespaceOrEmpty : y.namespaceOrEmpty = x.namespaceOrEmpty
  /-- It has the same name. -/
  nameOrEmpty : y.nameOrEmpty = x.nameOrEmpty
  /-- It has the same settings for all clusters. -/
  defaults : y.spec.defaults = x.spec.defaults
  /-- The clusters keep their order. -/
  order : StrictMono place
  /-- Every cluster is still there. -/
  clusters : ∀ i c, x.clusters[i]? = some c → ∃ d, y.clusters[place i]? = some d ∧ c.Grown d

/-! ### Clusters -/

/-- The shard `t` has the replicas of `s` before its others, below the same deployment. -/
structure Shard.BeginsAs (s t : Shard) : Prop where
  deployment : t.deployment = s.deployment
  replicas : s.replicas <+: t.replicas

theorem prefix_replicate {α : Type} {m n : Nat} (h : m ≤ n) (a : α) :
    List.replicate m a <+: List.replicate n a := by
  obtain ⟨k, rfl⟩ := Nat.exists_eq_add_of_le h
  rw [List.replicate_add]
  exact List.prefix_append _ _

/-- A grown shard is completed to one with the old replicas before the new ones. -/
theorem Shard.Grown.completed {s t : Shard} (h : s.Grown t) (cluster : Deployment) :
    (Shard.completed cluster s).BeginsAs (Shard.completed cluster t) := by
  cases h with
  | listed more htype =>
    refine ⟨rfl, ?_⟩
    simp only [replicas_completed_of_listed, htype]
    exact List.prefix_append _ _
  | counted htype hcount =>
    refine ⟨rfl, ?_⟩
    simp only [replicas_completed_of_counted, htype]
    exact prefix_replicate hcount _

/-- A grown cluster has its shards before any new ones, with all its replicas. -/
theorem Cluster.Grown.expandedShards {c d : Cluster} (h : c.Grown d) (scope : Scope) :
    ExtendedBy Shard.BeginsAs (scope.expandedShards c) (scope.expandedShards d) := by
  unfold Scope.expandedShards
  cases h with
  | standard htype hcount =>
    simp only [Layout.expanded_of_standard, htype]
    exact .of_isPrefix (prefix_replicate hcount _)
  | advanced htype hshards =>
    simp only [Layout.expanded_of_advanced, htype]
    exact hshards.map fun s t hst => hst.completed _

namespace Scope

variable (scope : Scope) {c d : Cluster}

theorem beginsAs_resolveShard (usage : Usage) {s t : Shard} (h : s.BeginsAs t) :
    (scope.resolveShard usage s).value.BeginsAs (scope.resolveShard usage t).value where
  deployment := h.deployment
  replicas := by
    have hfirst := Outcome.prefix_value_each (scope.resolveReplica s.deployment) usage h.replicas
    change _ <+: (Outcome.each (scope.resolveReplica t.deployment) usage t.replicas).value
    rw [h.deployment]
    exact hfirst

theorem prefix_shardFingerprints {s t : Shard} (h : s.BeginsAs t) :
    scope.shardFingerprints s <+: scope.shardFingerprints t := by
  unfold shardFingerprints
  rw [h.deployment]
  exact h.replicas.map _

/-- A replica of a cluster that has grown is found at its position, normalized as before. -/
theorem replicaAt?_normalize_of_grown (h : c.Grown d) {j k : Nat} {r : Replica}
    (hr : (scope.normalize c).value.replicaAt? j k = some r) :
    (scope.normalize d).value.replicaAt? j k = some r := by
  have hstep : ∀ u s t, s.BeginsAs t →
      (scope.resolveShard u s).value.BeginsAs (scope.resolveShard u t).value := by
    intro u s t hst
    exact scope.beginsAs_resolveShard u hst
  -- the usage that a shard begins with is the one it began with before
  have hshards : ExtendedBy Shard.BeginsAs (scope.normalize c).value.layout.shards
      (scope.normalize d).value.layout.shards :=
    Outcome.extendedBy_value_each hstep .empty (h.expandedShards scope)
  obtain ⟨s, hs, hr⟩ := Option.bind_eq_some_iff.mp hr
  obtain ⟨t, ht, hst⟩ := hshards.exists_of_getElem? hs
  have hreplica : t.replicas[k]? = some r := by
    obtain rfl | hst := hst
    · exact hr
    · exact getElem?_of_isPrefix hst.replicas hr
  exact Option.bind_eq_some_iff.mpr ⟨t, ht, hreplica⟩

/-- A cluster that has grown uses every fingerprint at least as often. -/
theorem get_usage_normalize_le (h : c.Grown d) (f : Fingerprint) :
    (scope.normalize c).usage.get f ≤ (scope.normalize d).usage.get f := by
  have hfirst : scope.fingerprints c <+: scope.fingerprints d :=
    (h.expandedShards scope).prefix_flatMap fun s t hst => scope.prefix_shardFingerprints hst
  rw [usage_normalize_eq, usage_normalize_eq, Usage.get_addAll, Usage.get_addAll]
  exact Nat.add_le_add_left (hfirst.sublist.count_le f) _

end Scope

/-! ### Installations -/

namespace Installation

variable {place : Nat → Nat} {x y : Installation}

/-- The clusters of a grown installation are normalized within the same scope. -/
theorem Grown.completedScope (h : x.Grown place y) : y.completedScope = x.completedScope := by
  have hdefaults : y.completedScope.defaults = x.completedScope.defaults := by
    change some y.spec.defaults.completed.deployment = some x.spec.defaults.completed.deployment
    rw [h.defaults]
  exact Scope.ext h.namespaceOrEmpty h.nameOrEmpty hdefaults

theorem Grown.replicaAt?_normalize (h : x.Grown place y) {i j k : Nat} {r : Replica}
    (hr : x.normalize.value.replicaAt? i j k = some r) :
    y.normalize.value.replicaAt? (place i) j k = some r := by
  rw [Installation.replicaAt?_normalize] at hr ⊢
  obtain ⟨c, hc, hr⟩ := Option.bind_eq_some_iff.mp hr
  obtain ⟨d, hd, hcd⟩ := h.clusters i c hc
  rw [hd, h.completedScope]
  exact x.completedScope.replicaAt?_normalize_of_grown hcd hr

theorem Grown.get_usage_normalize_le (h : x.Grown place y) (f : Fingerprint) :
    x.normalize.usage.get f ≤ y.normalize.usage.get f := by
  refine le_of_forall_lt fun i hi => ?_
  obtain ⟨c, hc, hi⟩ := lt_get_usage_normalize.mp hi
  obtain ⟨j, hj⟩ := List.mem_iff_getElem?.mp hc
  obtain ⟨d, hd, hcd⟩ := h.clusters j c hj
  refine lt_get_usage_normalize.mpr ⟨d, List.mem_of_getElem? hd, ?_⟩
  rw [h.completedScope]
  exact hi.trans_le (x.completedScope.get_usage_normalize_le hcd f)

theorem exists_deploymentId_of_replicaAt? {i j k : Nat} {r : Replica}
    (hr : x.normalize.value.replicaAt? i j k = some r) :
    ∃ f index, r.deployment.fingerprint = some f ∧ r.deployment.index = some index ∧
      r.deploymentId = .ok (deploymentIdOf f index) := by
  obtain ⟨_, -, f, index, hdeployment⟩ := deployment_replicaAt?_normalize hr
  have hstamps : r.deployment.fingerprint = some f ∧ r.deployment.index = some index := by
    rw [hdeployment]
    exact ⟨rfl, rfl⟩
  exact ⟨f, index, hstamps.1, hstamps.2,
    Replica.deploymentId_of_stamps? (Replica.stamps?_eq_some_iff.mpr hstamps)⟩

/-- **Growing renames nothing and needs no fewer instances.**  Every replica of the
normalized installation is found in the normalized grown one, at the new place of its
cluster and with the same indices of its shard and its own.  It is the same replica, with the
same settings and stamps, and so with the same ID, which it has in any case.  The
usage of each fingerprint is as large as before or larger. -/
theorem normalize_grown (h : x.Grown place y) :
    (∀ i j k r, x.normalize.value.replicaAt? i j k = some r →
        y.normalize.value.replicaAt? (place i) j k = some r ∧
          ∃ f index, r.deployment.fingerprint = some f ∧ r.deployment.index = some index ∧
            r.deploymentId = .ok (deploymentIdOf f index)) ∧
      ∀ f, x.normalize.usage.get f ≤ y.normalize.usage.get f := by
  refine ⟨?replicas, ?usage⟩
  case replicas =>
    intro i j k r hr
    exact ⟨h.replicaAt?_normalize hr, exists_deploymentId_of_replicaAt? hr⟩
  case usage =>
    intro f
    exact h.get_usage_normalize_le f

/-- A cluster that counts its shards, and one that lists a shard with the given replicas and
then others. -/
def clustersSample (shardsCount : Nat) (replicas : List Replica) (more : List Shard) :
    List Cluster :=
  [{ layout := { shardsCount } },
    { layout := { layoutType := .advanced, shards := { replicas } :: more } }]

/-- An installation of two clusters with one replica each. -/
def youngSample : Installation := { spec := ⟨{}, ⟨clustersSample 0 [{}] []⟩⟩ }

/-- The same with one more cluster before the others, one more shard in each of these, and one
more replica in the shard that was the last one of its cluster. -/
def grownSample : Installation :=
  { spec := ⟨{}, ⟨{ name := "new" } :: clustersSample 2 [{}, {}] [{ replicas := [{}] }]⟩⟩ }

theorem normalize_grown_grownSample :
    youngSample.Grown (· + 1) grownSample ∧
      (∃ r, youngSample.normalize.value.replicaAt? 1 0 0 = some r ∧
        grownSample.normalize.value.replicaAt? 2 0 0 = some r ∧
        ∃ id, r.deploymentId = .ok id) ∧
      ∀ f, youngSample.normalize.usage.get f ≤ grownSample.normalize.usage.get f := by
  let single : Shard := { replicas := [{}] }
  let pair : Shard := { replicas := [{}, {}] }
  have hlast : single.Grown pair := .listed single [{}] rfl
  have hlisted : ExtendedBy Shard.Grown [single] [pair, single] := .last [] [single] hlast
  have hgrown : youngSample.Grown (· + 1) grownSample := by
    refine ⟨rfl, rfl, rfl, ?order, ?clusters⟩
    case order =>
      intro i j hij
      exact Nat.succ_lt_succ hij
    case clusters =>
      intro i c hc
      match i with
      | 0 =>
        obtain rfl := Option.some.inj hc
        exact ⟨_, rfl, .standard _ rfl (by decide)⟩
      | 1 =>
        obtain rfl := Option.some.inj hc
        exact ⟨_, rfl, .advanced _ rfl hlisted⟩
  obtain ⟨hreplicas, husage⟩ := normalize_grown hgrown
  obtain ⟨r, hr⟩ : ∃ r, youngSample.normalize.value.replicaAt? 1 0 0 = some r := ⟨_, rfl⟩
  obtain ⟨hstays, f, index, -, -, hid⟩ := hreplicas 1 0 0 r hr
  exact ⟨hgrown, ⟨r, hr, hstays, _, hid⟩, husage⟩

end Installation

end ClusterTopology
