import ClusterTopology.Proofs.Layers
import ClusterTopology.Proofs.Runs

/-!
# Settings of normalized replicas

The settings of a normalized replica, in terms of the installation before it was
normalized.  Each replica has a chain of deployments: its own, those of its shard
and its cluster, and the one for all clusters.  A standard layout has no shards and
replicas of its own before it is expanded, and a shard that is given by a number has
no replicas of its own, so chains differ in length.

## Main definitions

* `Cluster.replicaAt?`, `Installation.replicaAt?` — the replica at a position.
* `Installation.chainAt?` — the deployments that a replica takes settings from.

## Main results

* `Installation.deployment_replicaAt?_normalize` — a normalized replica has the
  deployment that its chain resolves to, with stamps.
* `Installation.settings_eq_firstSet` — **each setting of a normalized replica is the
  first one that is set in its chain.**
-/

namespace ClusterTopology

/-! ### Positions and chains -/

/-- Replica `k` of shard `j`. -/
def Cluster.replicaAt? (cluster : Cluster) (j k : Nat) : Option Replica := do
  let shard ← cluster.layout.shards[j]?
  shard.replicas[k]?

/-- Replica `k` of shard `j` of the cluster at index `i`. -/
def Installation.replicaAt? (x : Installation) (i j k : Nat) : Option Replica := do
  let cluster ← x.clusters[i]?
  let shard ← cluster.layout.shards[j]?
  shard.replicas[k]?

/-- The deployment of replica `k` alone, in a shard that lists its replicas; else none. -/
def Shard.chainAt? (shard : Shard) (k : Nat) : Option (List Deployment) :=
  match shard.definitionType with
  | .replicasCount => some []
  | .replicas => shard.replicas[k]?.map fun replica => [replica.deployment]

/-- The deployments of replica `k` of shard `j` and of this shard, in a cluster that
lists its shards, and in any case that of the cluster. -/
def Cluster.chainAt? (cluster : Cluster) (j k : Nat) : Option (List Deployment) :=
  match cluster.layout.layoutType with
  | .standard => some [cluster.deployment]
  | .advanced => do
    let shard ← cluster.layout.shards[j]?
    let own ← shard.chainAt? k
    some (own ++ [shard.deployment, cluster.deployment])

/-- The deployments that replica `k` of shard `j` of the cluster at index `i` takes
settings from, the closest one first. -/
def Installation.chainAt? (x : Installation) (i j k : Nat) : Option (List Deployment) := do
  let cluster ← x.clusters[i]?
  let chain ← cluster.chainAt? j k
  some (chain ++ [x.spec.defaults.deployment])

/-! ### The deployment of a replica -/

namespace Scope

variable (scope : Scope)

/-- A resolved replica has its deployment, inheriting from that of its shard. -/
theorem exists_stamp_of_resolveShard {usage : Usage} {shard : Shard} {k : Nat} {r : Replica}
    (h : (scope.resolveShard usage shard).value.replicas[k]? = some r) :
    ∃ own, shard.replicas[k]? = some own ∧
      ∃ f n, r.deployment = (own.deployment.inherit shard.deployment).stamp f n := by
  obtain ⟨v, hv⟩ := Outcome.getElem?_value_each (scope.resolveReplica shard.deployment) usage
    shard.replicas k
  have hr := hv.symm.trans h
  obtain ⟨own, hown, rfl⟩ := Option.map_eq_some_iff.mp hr
  exact ⟨own, hown, _, _, rfl⟩

/-- A shard of a standard layout has replicas with the settings of the cluster. -/
theorem exists_stamp_of_generated {cluster : Deployment} {count k : Nat} {own : Replica}
    (h : (Shard.generated cluster count).replicas[k]? = some own) (f : Fingerprint) (n : Nat) :
    (own.deployment.inherit (Shard.generated cluster count).deployment).stamp f n =
      cluster.stamp f n := by
  obtain rfl : own = {} := by
    have := List.mem_of_getElem? h
    exact (List.mem_replicate.mp this).2
  rfl

/-- A shard of an advanced layout has replicas with the settings of their chains. -/
theorem exists_chain_of_completed {cluster : Deployment} {shard : Shard} {k : Nat} {own : Replica}
    (h : (Shard.completed cluster shard).replicas[k]? = some own) :
    ∃ chain, shard.chainAt? k = some chain ∧ ∀ f n,
      (own.deployment.inherit (Shard.completed cluster shard).deployment).stamp f n =
        (chain.foldr Deployment.inherit (shard.deployment.inherit cluster)).stamp f n := by
  unfold Shard.chainAt?
  cases hdef : shard.definitionType with
  | replicasCount =>
    rw [Shard.replicas_completed_of_counted cluster hdef] at h
    obtain rfl : own = {} := (List.mem_replicate.mp (List.mem_of_getElem? h)).2
    exact ⟨[], rfl, fun f n => rfl⟩
  | replicas =>
    rw [Shard.replicas_completed_of_listed cluster hdef] at h
    exact ⟨[own.deployment], by simp [h], fun f n => rfl⟩

/-- A normalized replica has the deployment that its chain resolves to below the
defaults of the scope. -/
theorem exists_chain_of_normalize {cluster : Cluster} {defaults : Deployment}
    (hdefaults : scope.defaults = some defaults) {j k : Nat} {shard : Shard}
    (hshard : (scope.normalize cluster).value.layout.shards[j]? = some shard) {r : Replica}
    (hr : shard.replicas[k]? = some r) :
    ∃ chain, cluster.chainAt? j k = some chain ∧
      ∃ f n, r.deployment = (chain.foldr Deployment.inherit defaults).stamp f n := by
  have hcluster : scope.clusterDeployment cluster = cluster.deployment.inherit defaults := by
    unfold clusterDeployment
    rw [hdefaults]
    rfl
  rw [shards_normalize, expandedShards, hcluster] at hshard
  obtain ⟨v, hv⟩ := Outcome.getElem?_value_each scope.resolveShard .empty
    (cluster.layout.expanded (cluster.deployment.inherit defaults)).shards j
  obtain ⟨expanded, hexpanded, rfl⟩ := Option.map_eq_some_iff.mp (hv.symm.trans hshard)
  obtain ⟨own, hown, f, n, hdeployment⟩ := scope.exists_stamp_of_resolveShard hr
  unfold Cluster.chainAt?
  cases htype : cluster.layout.layoutType with
  | standard =>
    -- what the layout listed is dropped, so the chain begins at the cluster
    rw [Layout.expanded_of_standard _ htype] at hexpanded
    obtain rfl := (List.mem_replicate.mp (List.mem_of_getElem? hexpanded)).2
    rw [exists_stamp_of_generated hown] at hdeployment
    exact ⟨[cluster.deployment], rfl, f, n, hdeployment⟩
  | advanced =>
    rw [Layout.expanded_of_advanced _ htype, List.getElem?_map] at hexpanded
    obtain ⟨listed, hlisted, rfl⟩ := Option.map_eq_some_iff.mp hexpanded
    obtain ⟨chain, hchain, hresolved⟩ := exists_chain_of_completed hown
    rw [hresolved] at hdeployment
    refine ⟨chain ++ [listed.deployment, cluster.deployment], by simp [hlisted, hchain], f, n, ?_⟩
    rw [hdeployment, List.foldr_append]
    rfl

end Scope

namespace Installation

/-- The replica at a position is that of the cluster, normalized on its own. -/
theorem replicaAt?_normalize (x : Installation) (i j k : Nat) :
    x.normalize.value.replicaAt? i j k =
      x.clusters[i]?.bind fun c => (x.completedScope.normalize c).value.replicaAt? j k := by
  change (x.normalize.value.clusters[i]?.bind fun c => c.replicaAt? j k) = _
  rw [clusters_normalize, List.getElem?_map]
  cases x.clusters[i]? <;> rfl

/-- A normalized replica has the deployment that its chain resolves to below the
completed defaults. -/
theorem deployment_replicaAt?_normalize {x : Installation} {i j k : Nat} {r : Replica}
    (h : x.normalize.value.replicaAt? i j k = some r) :
    ∃ chain, x.chainAt? i j k = some (chain ++ [x.spec.defaults.deployment]) ∧
      ∃ f n, r.deployment =
        (chain.foldr Deployment.inherit x.spec.defaults.completed.deployment).stamp f n := by
  rw [replicaAt?_normalize] at h
  obtain ⟨cluster, hcluster, h⟩ := Option.bind_eq_some_iff.mp h
  obtain ⟨shard, hshard, hr⟩ := Option.bind_eq_some_iff.mp h
  obtain ⟨chain, hchain, hdeployment⟩ :=
    x.completedScope.exists_chain_of_normalize rfl hshard hr
  refine ⟨chain, ?_, hdeployment⟩
  unfold chainAt?
  simp [hcluster, hchain]

/-- A scenario that is set is not empty, and neither is the default one. -/
theorem getD_firstSet?_ne_empty (scenarios : List (Option String)) :
    (firstSet? scenarios).getD defaultScenario ≠ "" := by
  cases hfirst : firstSet? scenarios with
  | none => decide
  | some s =>
    have hset : s.isEmpty = false := isUnset_of_firstSet? hfirst
    intro hempty
    rw [Option.getD_some] at hempty
    rw [hempty] at hset
    exact absurd hset (by decide)

/-- **Each setting of a normalized replica is the first one that is set in its chain.**
Where none is set, the scenario is the default one and the templates are what the
deployment for all clusters holds, absent or present and empty.  The labels are those
of one level, never of two. -/
theorem settings_eq_firstSet {x : Installation} {i j k : Nat} {r : Replica}
    (h : x.normalize.value.replicaAt? i j k = some r) :
    ∃ chain, x.chainAt? i j k = some chain ∧
      r.deployment.podTemplate =
        (firstSet? (chain.map (·.podTemplate))).or x.spec.defaults.deployment.podTemplate ∧
      r.deployment.volumeClaimTemplate =
        (firstSet? (chain.map (·.volumeClaimTemplate))).or
          x.spec.defaults.deployment.volumeClaimTemplate ∧
      r.deployment.scenario =
        some ((firstSet? (chain.map (·.scenario))).getD defaultScenario) ∧
      r.deployment.zone.matchLabels =
        (firstLabels? (chain.map (·.zone.matchLabels))).getD .empty ∧
      ∃ scenario, r.deployment.scenario = some scenario ∧ scenario ≠ "" := by
  obtain ⟨levels, hchain, f, n, hdeployment⟩ := deployment_replicaAt?_normalize h
  -- completing the defaults adds one more level after the last, which only sets a scenario
  let own := x.spec.defaults.deployment
  let completed := x.spec.defaults.completed.deployment
  have hpod := Deployment.map_foldr_inherit_of_eq (·.podTemplate) Deployment.podTemplate_inherit
    levels own completed own.podTemplate (inherit_self _).symm
  have hvolume := Deployment.map_foldr_inherit_of_eq (·.volumeClaimTemplate)
    Deployment.volumeClaimTemplate_inherit levels own completed own.volumeClaimTemplate
    (inherit_self _).symm
  have hscenario := Deployment.map_foldr_inherit_of_eq (·.scenario) Deployment.scenario_inherit
    levels own completed (some defaultScenario) rfl
  have hlabels := Deployment.map_foldr_inherit_of_eq (·.zone.matchLabels) (fun _ _ => rfl)
    levels own completed .empty (inherit_labels_empty _).symm
  rw [foldr_inherit_option] at hpod hvolume hscenario
  rw [foldr_inherit_labels] at hlabels
  have hresolved : r.deployment.scenario =
      some ((firstSet? ((levels ++ [x.spec.defaults.deployment]).map (·.scenario))).getD
        defaultScenario) := by
    rw [hdeployment]
    refine hscenario.trans ?_
    rw [Option.or_some]
  refine ⟨levels ++ [x.spec.defaults.deployment], hchain, ?_, ?_, hresolved, ?_, _, hresolved, ?_⟩
  · rw [hdeployment]; exact hpod
  · rw [hdeployment]; exact hvolume
  · rw [hdeployment]; exact hlabels
  · exact getD_firstSet?_ne_empty _

/-- A replica without settings, in a shard, a cluster and an installation that have some. -/
def layeredSample : Installation :=
  let replica : Replica := {}
  let shard : Shard := { deployment := { podTemplate := some "shard" }, replicas := [replica] }
  let cluster : Cluster :=
    { layout := { layoutType := .advanced, shards := [shard] }
      deployment := { podTemplate := some "cluster", zone := ⟨.ofList [("zone", "a")]⟩ } }
  let defaults : Deployment :=
    { volumeClaimTemplate := some "", zone := ⟨.ofList [("disk", "ssd")]⟩ }
  { spec := ⟨{ deployment := defaults }, ⟨[cluster]⟩⟩ }

theorem settings_layeredSample :
    ∃ r, layeredSample.normalize.value.replicaAt? 0 0 0 = some r ∧
      r.deployment.podTemplate = some "shard" ∧ r.deployment.volumeClaimTemplate = some "" ∧
      r.deployment.scenario = some "Default" ∧
      r.deployment.zone.matchLabels = .ofList [("zone", "a")] := by
  obtain ⟨r, hr⟩ : ∃ r, layeredSample.normalize.value.replicaAt? 0 0 0 = some r := ⟨_, rfl⟩
  obtain ⟨chain, hchain, hpod, hvolume, hscenario, hlabels, -⟩ := settings_eq_firstSet hr
  have hlevels : layeredSample.chainAt? 0 0 0 = some _ := rfl
  obtain rfl := Option.some.inj (hlevels.symm.trans hchain)
  exact ⟨r, hr, hpod, hvolume, hscenario, hlabels⟩

end Installation

end ClusterTopology
