import ClusterTopology.Proofs.Sizing

/-!
# The log of a normalization

A normalization reports every replica that it stamps, every cluster that it is done with, and in
the end the installation.  All of this can be read off its result: the replicas are reported in
the order in which they stand there, each of them once and with the stamps that it has, and the
numbers of fingerprints are those of the replicas that have them.

Events are looked at through views that show nothing for no events and are put together like
the lists of events themselves, such as their levels, or the stamps that they report.

## Main definitions

* `variants` — the different fingerprints of replicas.
* `Replica.report?`, `Cluster.report`, `Installation.report` — what is reported about a replica,
  a cluster and an installation.

## Main results

* `Usage.size_eq_length_dedup` — the number of entries is the number of different uses.
* `Installation.view_normalize` — every view of the log can be read off the result.
* `Installation.normalize_logged` — **the log tells exactly what was done.**
-/

namespace ClusterTopology

/-! ### Reports -/

/-- The different fingerprints of some replicas. -/
def variants (ps : List PlacedReplica) : List Fingerprint :=
  (ps.filterMap (·.replica.deployment.fingerprint)).dedup

/-- What is reported about a replica, if it is stamped. -/
def Replica.report? (r : Replica) : Option Event :=
  r.stamps?.map fun s => .resolvedReplica s.1 s.2

/-- What is reported about a cluster. -/
def Cluster.report (cluster : Cluster) : Event :=
  .normalizedCluster cluster.name cluster.layout.layoutType cluster.layout.shards.length
    (variants cluster.replicas).length

/-- What is reported about an installation and its usage. -/
def Installation.report (x : Installation) (usage : Usage) : Event :=
  .normalizedInstallation (variants x.replicas).length usage.total

/-- The stamps that an event reports, if it is about a replica. -/
def Event.stamps? : Event → Option (Fingerprint × Nat)
  | resolvedReplica f index => some (f, index)
  | _ => none

/-! ### Numbers of fingerprints -/

/-- The number of entries in a usage is the number of different fingerprints that have one. -/
theorem Usage.size_eq_length_dedup {u : Usage} {fs : List Fingerprint}
    (h : ∀ f, f ∈ u ↔ f ∈ fs) : u.size = fs.dedup.length := by
  have hkeys : u.counts.keys.Perm fs.dedup := by
    refine (List.perm_ext_iff_of_nodup u.nodup_keys (List.nodup_dedup fs)).mpr fun f => ?_
    rw [List.mem_dedup]
    exact h f
  rw [← hkeys.length_eq]
  exact (List.length_map _).symm

theorem mem_filterMap_fingerprint {ps : List PlacedReplica} {f : Fingerprint} :
    f ∈ ps.filterMap (·.replica.deployment.fingerprint) ↔
      ∃ p ∈ ps, p.replica.deployment.fingerprint = some f :=
  List.mem_filterMap

theorem Scope.size_usage_normalize (scope : Scope) (cluster : Cluster) :
    (scope.normalize cluster).usage.size =
      (variants (scope.normalize cluster).value.replicas).length := by
  refine Usage.size_eq_length_dedup fun f => ?_
  rw [mem_usage_normalize, ← uses_normalize, mem_filterMap_fingerprint]
  unfold Cluster.uses
  rw [List.countP_pos_iff]
  simp only [decide_eq_true_eq]

theorem Installation.size_usage_normalize (x : Installation) :
    x.normalize.usage.size = (variants x.normalize.value.replicas).length := by
  refine Usage.size_eq_length_dedup fun f => ?_
  rw [mem_usage_normalize_iff_exists, mem_filterMap_fingerprint]

/-! ### Views of the log -/

section View

variable {γ : Type} (view : List Event → List γ)
  (hview : ∀ es fs, view (es ++ fs) = view es ++ view fs)

include hview

theorem view_nil : view [] = [] := by
  have h := hview [] []
  rw [List.append_nil] at h
  exact List.self_eq_append_left.mp h

/-- If the view of every step can be read off its value, then so can that of a run. -/
theorem Outcome.view_each {α β : Type} (step : Usage → α → Outcome β) (shown : β → List γ)
    (hstep : ∀ u item, view (step u item).events = shown (step u item).value) (u : Usage)
    (items : List α) :
    view (each step u items).events = (each step u items).value.flatMap shown := by
  induction items generalizing u with
  | nil => exact view_nil view hview
  | cons item items ih => rw [each_cons, hview, List.flatMap_cons, hstep, ih]

variable (shown : Replica → List γ)
  (hreplica : ∀ d f i, view [.resolvedReplica f i] = shown ⟨Deployment.stamp d f i⟩)

include hreplica

theorem Scope.view_resolveShard (scope : Scope) (u : Usage) (shard : Shard) :
    view (scope.resolveShard u shard).events =
      (scope.resolveShard u shard).value.replicas.flatMap shown :=
  Outcome.view_each view hview (scope.resolveReplica shard.deployment) shown
    (fun _ _ => hreplica _ _ _) u shard.replicas

/-- The log of a cluster shows its replicas as they stand, and then the cluster. -/
theorem Scope.view_normalize (scope : Scope) (cluster : Cluster) :
    view (scope.normalize cluster).events =
      (scope.normalize cluster).value.replicas.flatMap (fun p => shown p.replica) ++
        view [(scope.normalize cluster).value.report] := by
  have hshards := Outcome.view_each view hview scope.resolveShard (fun shard =>
    shard.replicas.flatMap shown) (scope.view_resolveShard view hview shown hreplica) .empty
    (scope.expandedShards cluster)
  have hreplicas : (scope.normalize cluster).value.replicas.flatMap (fun p => shown p.replica) =
      (scope.normalize cluster).value.layout.shards.flatMap fun shard =>
        shard.replicas.flatMap shown := by
    rw [← List.flatMap_map, Cluster.map_replica_replicas, List.flatMap_assoc]
  have hevents : (scope.normalize cluster).events =
      (Outcome.each scope.resolveShard .empty (scope.expandedShards cluster)).events ++
        [(scope.normalize cluster).value.report] := by
    unfold Cluster.report
    rw [← scope.size_usage_normalize]
    rfl
  rw [hevents, hview, hshards, hreplicas, shards_normalize]

/-- **Every view of the log can be read off the result.** -/
theorem Installation.view_normalize (x : Installation) :
    view x.normalize.events =
      view [.normalizing x.metadata.namespaceName x.metadata.name] ++
        ((x.normalize.value.clusters.flatMap fun cluster =>
            cluster.replicas.flatMap (fun p => shown p.replica) ++ view [cluster.report]) ++
          view [x.normalize.value.report x.normalize.usage]) := by
  have hclusters := Outcome.view_each view hview x.completedScope.normalizeInto
    (fun cluster => cluster.replicas.flatMap (fun p => shown p.replica) ++ view [cluster.report])
    (fun _ cluster => x.completedScope.view_normalize view hview shown hreplica cluster)
    .empty x.clusters
  have hevents : x.normalize.events =
      [.normalizing x.metadata.namespaceName x.metadata.name] ++
        ((Outcome.each x.completedScope.normalizeInto .empty x.clusters).events ++
          [x.normalize.value.report x.normalize.usage]) := by
    unfold report
    rw [← size_usage_normalize]
    rfl
  rw [hevents, hview, hview, hclusters]
  rfl

end View

/-! ### The log -/

/-- **The log tells exactly what was done.**  It begins with the span of the installation, and
ends with an event for it.  In between there is an event for each replica of the result, cluster
by cluster and in the order in which the replicas stand, with the stamps that the replica has,
and one for each cluster after those for its replicas.  The events for replicas are the ones
at the level of single steps.  A cluster is reported with its name, its layout type and the
numbers of its shards and of the fingerprints of its replicas; an installation with the number of
fingerprints of its replicas and with the total of its usage. -/
theorem Installation.normalize_logged (x : Installation) :
    let o := x.normalize
    o.events.map some =
        some (.normalizing x.metadata.namespaceName x.metadata.name) ::
          ((o.value.clusters.flatMap fun cluster =>
              cluster.replicas.map (·.replica.report?) ++ [some cluster.report]) ++
            [some (o.value.report o.usage)]) ∧
      o.events.map (fun e => (e.spanName, e.level)) =
        (some "normalize_installation", .info) ::
          ((o.value.clusters.flatMap fun cluster =>
              cluster.replicas.map (fun _ => (none, .trace)) ++ [(none, .debug)]) ++
            [(none, .debug)]) ∧
      (o.events.filter (·.level = .trace)).map Event.stamps? =
        o.value.replicas.map (·.replica.stamps?) ∧
      o.value.clusters.map (fun cluster => (cluster.name, cluster.layout.layoutType)) =
        x.clusters.map fun cluster => (cluster.name, cluster.layout.layoutType) := by
  intro o
  refine ⟨?events, ?levels, ?stamps, ?clusters⟩
  case events =>
    have h := x.view_normalize (List.map some) (fun _ _ => List.map_append)
      (fun r => [r.report?]) (fun _ _ _ => rfl)
    simp only [← List.map_eq_flatMap] at h
    exact h
  case levels =>
    have h := x.view_normalize (List.map fun e => (e.spanName, e.level))
      (fun _ _ => List.map_append) (fun _ => [(none, .trace)]) (fun _ _ _ => rfl)
    simp only [← List.map_eq_flatMap] at h
    exact h
  case stamps =>
    have hview : ∀ es fs : List Event,
        ((es ++ fs).filter (·.level = .trace)).map Event.stamps? =
          (es.filter (·.level = .trace)).map Event.stamps? ++
            (fs.filter (·.level = .trace)).map Event.stamps? := by
      intro es fs
      rw [List.filter_append, List.map_append]
    -- events about clusters and installations are at another level
    have h : (o.events.filter (·.level = .trace)).map Event.stamps? =
        (o.value.clusters.flatMap fun cluster =>
          cluster.replicas.flatMap (fun p => [p.replica.stamps?]) ++ []) ++ [] :=
      x.view_normalize (fun es => (es.filter (·.level = .trace)).map Event.stamps?) hview
        (fun r => [r.stamps?]) (fun _ _ _ => rfl)
    simp only [List.append_nil, ← List.map_eq_flatMap] at h
    unfold replicas
    rw [h, List.map_flatMap]
  case clusters =>
    change x.normalize.value.clusters.map _ = _
    rw [clusters_normalize, List.map_map]
    refine List.map_congr_left fun cluster _ => ?_
    exact congrArg (cluster.name, ·) (layoutType_expanded _ cluster.layout)

end ClusterTopology
