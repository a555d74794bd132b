import Mathlib.Data.Set.Function
import ClusterTopology.Proofs.Changes
import ClusterTopology.Proofs.HashInputs
import ClusterTopology.Proofs.Sizing

/-!
# Installations under other names

The namespace and the name of an installation are hashed with every deployment, so that
under other names all fingerprints are different ones.  Indices are counted by fingerprints,
and the entries of a usage are in the order of fingerprints; still nothing depends on the
names but the fingerprints themselves, unless two deployments happen to have one digest.
Both normalizations are followed side by side: wherever one of them counts a fingerprint,
the other one counts the fingerprint that takes its place, and their counts stay the same.

## Main definitions

* `Installation.hashInputs` — the byte strings that are hashed in a normalization.
* `Installation.DigestsDiffer` — different ones of them have different digests.
* `Usage.CarriedTo` — a usage has the counts of another one under other fingerprints.
* `Scope.Relabels` — how fingerprints within one scope correspond to those within another.

## Main results

* `Scope.Relabels.resolveReplica`, `Scope.Relabels.resolveShard`, `Scope.Relabels.normalize` —
  corresponding steps lead to corresponding values and usages.
* `Installation.normalize_of_spec_eq` — **nothing but fingerprints depends on names**, and
  these correspond one to one.
-/

namespace ClusterTopology

open HasDeployments

/-! ### What is hashed in a normalization -/

/-- The deployments of the replicas of a shard, with what they inherit. -/
def Shard.resolved (shard : Shard) : List Deployment :=
  shard.replicas.map fun replica => replica.deployment.inherit shard.deployment

/-- The deployments that are hashed for a cluster, shard by shard. -/
def Scope.resolved (scope : Scope) (cluster : Cluster) : List Deployment :=
  (scope.expandedShards cluster).flatMap Shard.resolved

theorem Scope.resolved_congr {scope scope' : Scope} (h : scope'.defaults = scope.defaults) :
    scope'.resolved = scope.resolved := by
  funext cluster
  unfold resolved expandedShards clusterDeployment
  rw [h]

theorem Scope.fingerprints_eq (scope : Scope) (cluster : Cluster) :
    scope.fingerprints cluster = (scope.resolved cluster).map scope.fingerprint := by
  have hshard : ∀ shard : Shard,
      scope.shardFingerprints shard = shard.resolved.map scope.fingerprint :=
    fun _ => List.map_map.symm
  unfold fingerprints resolved
  rw [List.map_flatMap, funext hshard]

namespace Installation

/-- The deployments that are hashed for an installation, cluster by cluster. -/
def resolved (x : Installation) : List Deployment := x.clusters.flatMap x.completedScope.resolved

/-- The byte strings that are hashed in the normalization of an installation. -/
def hashInputs (x : Installation) : List ByteArray :=
  x.resolved.map (·.hashInput x.namespaceOrEmpty x.nameOrEmpty)

/-- Different byte strings that are hashed in the normalization of an installation have
different digests. -/
def DigestsDiffer (x : Installation) : Prop :=
  ∀ b ∈ x.hashInputs, ∀ c ∈ x.hashInputs, b ≠ c →
    Sha256.digest b.data.toList ≠ Sha256.digest c.data.toList

instance (x : Installation) : Decidable x.DigestsDiffer :=
  inferInstanceAs (Decidable (∀ b ∈ x.hashInputs, ∀ c ∈ x.hashInputs, b ≠ c →
    Sha256.digest b.data.toList ≠ Sha256.digest c.data.toList))

/-- The fingerprints of the replicas are those of the deployments that are hashed, in order. -/
theorem map_fingerprint_replicas (x : Installation) :
    x.normalize.value.replicas.map (·.replica.deployment.fingerprint) =
      (x.resolved.map x.completedScope.fingerprint).map some := by
  have hcluster : ∀ cluster : Cluster, (x.completedScope.normalize cluster).value.replicas.map
      (·.replica.deployment.fingerprint) =
        ((x.completedScope.resolved cluster).map x.completedScope.fingerprint).map some := by
    intro cluster
    rw [Scope.map_fingerprint_normalize, Scope.fingerprints_eq]
  unfold replicas resolved
  rw [clusters_normalize, List.flatMap_map, List.map_flatMap, List.map_flatMap, List.map_flatMap,
    funext hcluster]

/-- There are entries for the fingerprints of what is hashed. -/
theorem mem_usage_normalize_iff_resolved {x : Installation} {f : Fingerprint} :
    f ∈ x.normalize.usage ↔ f ∈ x.resolved.map x.completedScope.fingerprint := by
  rw [mem_usage_normalize_iff_exists, ← List.mem_map, map_fingerprint_replicas,
    List.mem_map_of_injective (Option.some_injective _)]

/-- If digests differ then fingerprints differ exactly if canonical texts do. -/
theorem DigestsDiffer.fingerprint_inj {x : Installation} (h : x.DigestsDiffer) {d e : Deployment}
    (hd : d ∈ x.resolved) (he : e ∈ x.resolved) :
    x.completedScope.fingerprint d = x.completedScope.fingerprint e ↔
      d.canonical = e.canonical := by
  have hinput : d.hashInput x.namespaceOrEmpty x.nameOrEmpty =
      e.hashInput x.namespaceOrEmpty x.nameOrEmpty ↔ d.canonical = e.canonical := by
    rw [Deployment.hashInput_inj, String.append_right_inj]
  rw [← hinput]
  constructor
  · intro hfingerprint
    by_contra hne
    refine h _ (List.mem_map_of_mem hd) _ (List.mem_map_of_mem he) hne ?_
    exact Sha256.hexDigest_inj.mp (congrArg Fingerprint.text hfingerprint)
  · intro heq
    exact congrArg (fun b : ByteArray => Fingerprint.mk (Sha256.hexDigest b.data.toList)) heq

end Installation

/-! ### Counts under other fingerprints -/

/-- The usage `v` has the counts that `u` has for the fingerprints `fs`, for what `φ` puts in
their place. -/
def Usage.CarriedTo (φ : Fingerprint → Fingerprint) (fs : List Fingerprint) (u v : Usage) : Prop :=
  ∀ f ∈ fs, v.get (φ f) = u.get f

namespace Usage.CarriedTo

variable {φ : Fingerprint → Fingerprint} {fs : List Fingerprint} {u v u' v' : Usage}

theorem empty : CarriedTo φ fs .empty .empty := fun _ _ => rfl

/-- One more use on both sides, if no two of the fingerprints get one place. -/
theorem add (h : CarriedTo φ fs u v) (hinj : Set.InjOn φ {f | f ∈ fs}) {f : Fingerprint}
    (hf : f ∈ fs) : CarriedTo φ fs (u.add f) (v.add (φ f)) := by
  intro g hg
  have hiff : φ g = φ f ↔ g = f := hinj.eq_iff hg hf
  rw [get_add, get_add, h f hf, h g hg]
  simp only [hiff]

theorem sup (h : CarriedTo φ fs u v) (h' : CarriedTo φ fs u' v') :
    CarriedTo φ fs (u.sup u') (v.sup v') := by
  intro f hf
  rw [get_sup, get_sup, h f hf, h' f hf]

end Usage.CarriedTo

/-! ### Corresponding steps -/

/-- The deployment with another fingerprint in the place of its own. -/
def Deployment.relabel (φ : Fingerprint → Fingerprint) (d : Deployment) : Deployment :=
  { d with fingerprint := d.fingerprint.map φ }

/-- Two scopes have the same defaults, and `φ` puts the fingerprints that the deployments `ds`
have within the second one in the place of those that they have within the first, and keeps
these apart. -/
structure Scope.Relabels (φ : Fingerprint → Fingerprint) (ds : List Deployment)
    (scope scope' : Scope) : Prop where
  /-- The scopes have the same defaults. -/
  defaults : scope'.defaults = scope.defaults
  /-- What is put in the place of fingerprints. -/
  fingerprint : ∀ d ∈ ds, scope'.fingerprint d = φ (scope.fingerprint d)
  /-- Different fingerprints stay different. -/
  injOn : Set.InjOn φ {f | f ∈ ds.map scope.fingerprint}

namespace Scope.Relabels

variable {φ : Fingerprint → Fingerprint} {ds : List Deployment} {scope scope' : Scope}

/-- Fingerprints correspond if the same deployments have one fingerprint within both scopes. -/
theorem exists_of_fingerprint_eq_iff (hdefaults : scope'.defaults = scope.defaults)
    (h : ∀ d ∈ ds, ∀ e ∈ ds, scope.fingerprint d = scope.fingerprint e ↔
      scope'.fingerprint d = scope'.fingerprint e) : ∃ φ, Relabels φ ds scope scope' := by
  let before (d : { d // d ∈ ds }) : Fingerprint := scope.fingerprint d
  let after (d : { d // d ∈ ds }) : Fingerprint := scope'.fingerprint d
  have hfactors : after.FactorsThrough before := fun d e hde => (h d d.2 e e.2).mp hde
  have hplace : ∀ d ∈ ds,
      scope'.fingerprint d = Function.extend before after id (scope.fingerprint d) :=
    fun d hd => (hfactors.extend_apply id ⟨d, hd⟩).symm
  -- fingerprints that none of the deployments has may stay as they are
  refine ⟨Function.extend before after id, hdefaults, hplace, ?_⟩
  intro f hf g hg heq
  obtain ⟨d, hd, rfl⟩ := List.mem_map.mp hf
  obtain ⟨e, he, rfl⟩ := List.mem_map.mp hg
  rw [← hplace d hd, ← hplace e he] at heq
  exact (h d hd e he).mpr heq

/-- The fingerprints of the deployments correspond one to one. -/
theorem bijOn (h : Relabels φ ds scope scope') :
    Set.BijOn φ {f | f ∈ ds.map scope.fingerprint} {f | f ∈ ds.map scope'.fingerprint} := by
  have hmap : ds.map scope'.fingerprint = (ds.map scope.fingerprint).map φ := by
    rw [List.map_map]
    exact List.map_congr_left h.fingerprint
  rw [hmap]
  refine ⟨fun f hf => List.mem_map_of_mem hf, h.injOn, fun f hf => ?_⟩
  exact List.mem_map.mp hf

variable (h : Relabels φ ds scope scope') {u v : Usage}
  (huv : Usage.CarriedTo φ (ds.map scope.fingerprint) u v)

include h

include huv in
/-- A replica gets the index that it has within the other scope. -/
theorem resolveReplica {parent : Deployment} {replica : Replica}
    (hmem : replica.deployment.inherit parent ∈ ds) :
    Outcome.Follows (Usage.CarriedTo φ (ds.map scope.fingerprint))
      (mapDeployments (Deployment.relabel φ))
      (scope.resolveReplica parent u replica) (scope'.resolveReplica parent v replica) := by
  have hf : scope.fingerprint (replica.deployment.inherit parent) ∈ ds.map scope.fingerprint :=
    List.mem_map_of_mem hmem
  unfold Scope.resolveReplica
  simp only [h.fingerprint _ hmem, huv _ hf]
  exact ⟨rfl, huv.add h.injOn hf⟩

include huv in
theorem resolveShard {shard : Shard} (hmem : ∀ d ∈ shard.resolved, d ∈ ds) :
    Outcome.Follows (Usage.CarriedTo φ (ds.map scope.fingerprint))
      (.mapLevels id (Deployment.relabel φ))
      (scope.resolveShard u shard) (scope'.resolveShard v shard) := by
  have hrun : Outcome.Follows (Usage.CarriedTo φ (ds.map scope.fingerprint))
      (List.map (mapDeployments (Deployment.relabel φ)))
      (Outcome.each (scope.resolveReplica shard.deployment) u shard.replicas)
      (Outcome.each (scope'.resolveReplica shard.deployment) v shard.replicas) := by
    refine Outcome.Follows.each (fun replica hreplica u v huv => ?_) huv
    exact h.resolveReplica huv (hmem _ (List.mem_map_of_mem hreplica))
  exact ⟨congrArg (fun replicas => { shard with replicas }) hrun.value, hrun.usage⟩

/-- **A cluster is normalized alike within both scopes**, but for the fingerprints of its
replicas. -/
theorem normalize {cluster : Cluster} (hmem : ∀ d ∈ scope.resolved cluster, d ∈ ds) :
    Outcome.Follows (Usage.CarriedTo φ (ds.map scope.fingerprint))
      (.mapLevels id (Deployment.relabel φ))
      (scope.normalize cluster) (scope'.normalize cluster) := by
  have hrun : Outcome.Follows (Usage.CarriedTo φ (ds.map scope.fingerprint))
      (List.map (.mapLevels id (Deployment.relabel φ)))
      (Outcome.each scope.resolveShard .empty (scope.expandedShards cluster))
      (Outcome.each scope'.resolveShard .empty (scope.expandedShards cluster)) := by
    refine Outcome.Follows.each (fun shard hshard u v huv => ?_) .empty
    exact h.resolveShard huv fun d hd => hmem d (List.mem_flatMap.mpr ⟨shard, hshard, hd⟩)
  -- the layout is expanded alike, as scopes differ in names only
  have hnormalize : scope'.normalize cluster =
      { scope' with defaults := scope.defaults }.normalize cluster := by
    rw [← h.defaults]
  rw [hnormalize]
  exact ⟨congrArg (fun shards => { cluster with
    deployment := scope.clusterDeployment cluster
    layout := { cluster.layout.expanded (scope.clusterDeployment cluster) with shards } })
      hrun.value, hrun.usage⟩

include huv in
theorem normalizeInto {cluster : Cluster} (hmem : ∀ d ∈ scope.resolved cluster, d ∈ ds) :
    Outcome.Follows (Usage.CarriedTo φ (ds.map scope.fingerprint))
      (.mapLevels id (Deployment.relabel φ))
      (scope.normalizeInto u cluster) (scope'.normalizeInto v cluster) :=
  ⟨(h.normalize hmem).value, huv.sup (h.normalize hmem).usage⟩

end Scope.Relabels

/-! ### Installations -/

/-- The deployment without its fingerprint. -/
def Deployment.withoutFingerprint (d : Deployment) : Deployment := { d with fingerprint := none }

/-- The spec without the fingerprints of its replicas. -/
def Spec.withoutReplicaFingerprints (s : Spec) : Spec :=
  s.mapLevels id Deployment.withoutFingerprint

theorem Spec.withoutReplicaFingerprints_mapLevels_relabel (φ : Fingerprint → Fingerprint)
    (s : Spec) : (s.mapLevels id (Deployment.relabel φ)).withoutReplicaFingerprints =
      s.withoutReplicaFingerprints :=
  s.mapLevels_mapLevels _ _ _ _

namespace Installation

/-- The fingerprint of replica `k` of shard `j` of the cluster at index `i`. -/
def fingerprintAt? (x : Installation) (i j k : Nat) : Option Fingerprint := do
  let replica ← x.replicaAt? i j k
  replica.deployment.fingerprint

theorem exists_replicaAt?_iff {x : Installation} {r : Replica} :
    (∃ i j k, x.replicaAt? i j k = some r) ↔ ∃ p ∈ x.replicas, p.replica = r := by
  have hcluster : ∀ c : Cluster,
      (∃ j k, c.replicaAt? j k = some r) ↔ ∃ p ∈ c.replicas, p.replica = r := by
    intro c
    rw [← List.mem_map, Cluster.map_replica_replicas, List.mem_flatMap]
    constructor
    · rintro ⟨j, k, h⟩
      obtain ⟨shard, hshard, hr⟩ := Option.bind_eq_some_iff.mp h
      exact ⟨shard, List.mem_of_getElem? hshard, List.mem_of_getElem? hr⟩
    · rintro ⟨shard, hshard, hr⟩
      obtain ⟨j, hj⟩ := List.mem_iff_getElem?.mp hshard
      obtain ⟨k, hk⟩ := List.mem_iff_getElem?.mp hr
      exact ⟨j, k, Option.bind_eq_some_iff.mpr ⟨shard, hj, hk⟩⟩
  constructor
  · rintro ⟨i, j, k, h⟩
    obtain ⟨c, hc, hr⟩ := Option.bind_eq_some_iff.mp h
    obtain ⟨p, hp, rfl⟩ := (hcluster c).mp ⟨j, k, hr⟩
    exact ⟨p, List.mem_flatMap.mpr ⟨c, List.mem_of_getElem? hc, hp⟩, rfl⟩
  · rintro ⟨p, hp, rfl⟩
    obtain ⟨c, hc, hp⟩ := List.mem_flatMap.mp hp
    obtain ⟨i, hi⟩ := List.mem_iff_getElem?.mp hc
    obtain ⟨j, k, hr⟩ := (hcluster c).mpr ⟨p, hp, rfl⟩
    exact ⟨i, j, k, Option.bind_eq_some_iff.mpr ⟨c, hi, hr⟩⟩

/-- There are entries for the fingerprints at some position. -/
theorem exists_fingerprintAt?_iff {x : Installation} {f : Fingerprint} :
    (∃ i j k, x.normalize.value.fingerprintAt? i j k = some f) ↔ f ∈ x.normalize.usage := by
  rw [mem_usage_normalize_iff_exists]
  constructor
  · rintro ⟨i, j, k, h⟩
    obtain ⟨r, hr, hf⟩ := Option.bind_eq_some_iff.mp h
    obtain ⟨p, hp, rfl⟩ := exists_replicaAt?_iff.mp ⟨i, j, k, hr⟩
    exact ⟨p, hp, hf⟩
  · rintro ⟨p, hp, hf⟩
    obtain ⟨i, j, k, hr⟩ := exists_replicaAt?_iff.mpr ⟨p, hp, rfl⟩
    exact ⟨i, j, k, Option.bind_eq_some_iff.mpr ⟨p.replica, hr, hf⟩⟩

variable {x y : Installation}

theorem defaults_completedScope_congr (h : x.spec = y.spec) :
    y.completedScope.defaults = x.completedScope.defaults :=
  congrArg (fun spec : Spec => some spec.defaults.completed.deployment) h.symm

theorem resolved_congr (h : x.spec = y.spec) : y.resolved = x.resolved := by
  unfold resolved clusters
  rw [h, Scope.resolved_congr (defaults_completedScope_congr h)]

/-- Fingerprints within both installations correspond, as canonical texts do not change. -/
theorem exists_relabels (hspec : x.spec = y.spec) (hx : x.DigestsDiffer) (hy : y.DigestsDiffer) :
    ∃ φ, Scope.Relabels φ x.resolved x.completedScope y.completedScope := by
  refine Scope.Relabels.exists_of_fingerprint_eq_iff (defaults_completedScope_congr hspec) ?_
  intro d hd e he
  have hd' : d ∈ y.resolved := resolved_congr hspec ▸ hd
  have he' : e ∈ y.resolved := resolved_congr hspec ▸ he
  rw [hx.fingerprint_inj hd he, hy.fingerprint_inj hd' he']

theorem normalize_of_relabels {φ : Fingerprint → Fingerprint} (hspec : x.spec = y.spec)
    (h : Scope.Relabels φ x.resolved x.completedScope y.completedScope) :
    y.normalize.value.spec = x.normalize.value.spec.mapLevels id (Deployment.relabel φ) ∧
      Usage.CarriedTo φ (x.resolved.map x.completedScope.fingerprint)
        x.normalize.usage y.normalize.usage := by
  have hrun : Outcome.Follows
      (Usage.CarriedTo φ (x.resolved.map x.completedScope.fingerprint))
      (List.map (.mapLevels id (Deployment.relabel φ)))
      (Outcome.each x.completedScope.normalizeInto .empty x.clusters)
      (Outcome.each y.completedScope.normalizeInto .empty y.clusters) := by
    have hclusters : y.clusters = x.clusters :=
      congrArg (fun spec : Spec => spec.configuration.clusters) hspec.symm
    rw [hclusters]
    refine Outcome.Follows.each (fun cluster hcluster u v huv => ?_) .empty
    exact h.normalizeInto huv fun d hd => List.mem_flatMap.mpr ⟨cluster, hcluster, hd⟩
  have hdefaults : y.spec.defaults.completed = x.spec.defaults.completed := by rw [hspec]
  exact ⟨Spec.ext hdefaults (congrArg Configuration.mk hrun.value), hrun.usage⟩

theorem fingerprintAt?_of_spec_eq_mapLevels {φ : Fingerprint → Fingerprint}
    (h : y.spec = x.spec.mapLevels id (Deployment.relabel φ)) (i j k : Nat) :
    y.fingerprintAt? i j k = (x.fingerprintAt? i j k).map φ := by
  have hreplica : y.replicaAt? i j k =
      (x.replicaAt? i j k).map (mapDeployments (Deployment.relabel φ)) := by
    have hclusters : y.clusters = (x.mapLevels id (Deployment.relabel φ)).clusters :=
      congrArg (fun spec : Spec => spec.configuration.clusters) h
    rw [← replicaAt?_mapLevels]
    unfold replicaAt?
    rw [hclusters]
  unfold fingerprintAt?
  rw [hreplica]
  cases x.replicaAt? i j k with
  | none => rfl
  | some r => rfl

/-- **Nothing but fingerprints depends on names.**  Two installations with the same spec are
normalized to the same spec, indices included, but for the fingerprints of replicas, if no
digest in either normalization is that of two byte strings.  The fingerprints that the two
have at the same positions correspond one to one, and they have the same counts. -/
theorem normalize_of_spec_eq (hspec : x.spec = y.spec) (hx : x.DigestsDiffer)
    (hy : y.DigestsDiffer) :
    x.normalize.value.spec.withoutReplicaFingerprints =
        y.normalize.value.spec.withoutReplicaFingerprints ∧
      ∃ φ : Fingerprint → Fingerprint,
        (∀ f g, (∃ i j k, x.normalize.value.fingerprintAt? i j k = some f ∧
            y.normalize.value.fingerprintAt? i j k = some g) ↔
          f ∈ x.normalize.usage ∧ φ f = g) ∧
        Set.BijOn φ {f | f ∈ x.normalize.usage} {g | g ∈ y.normalize.usage} ∧
        ∀ f ∈ x.normalize.usage, y.normalize.usage.get (φ f) = x.normalize.usage.get f := by
  obtain ⟨φ, hφ⟩ := exists_relabels hspec hx hy
  obtain ⟨htree, hcounts⟩ := normalize_of_relabels hspec hφ
  have hentry : ∀ f, f ∈ x.normalize.usage ↔ f ∈ x.resolved.map x.completedScope.fingerprint :=
    fun _ => mem_usage_normalize_iff_resolved
  refine ⟨?tree, φ, ?positions, ?bijection, ?counts⟩
  case tree => rw [htree, Spec.withoutReplicaFingerprints_mapLevels_relabel]
  case positions =>
    intro f g
    simp only [fingerprintAt?_of_spec_eq_mapLevels htree, ← exists_fingerprintAt?_iff]
    constructor
    · rintro ⟨i, j, k, hf, hg⟩
      rw [hf] at hg
      exact ⟨⟨i, j, k, hf⟩, Option.some.inj hg⟩
    · rintro ⟨⟨i, j, k, hf⟩, rfl⟩
      exact ⟨i, j, k, hf, congrArg (Option.map φ) hf⟩
  case bijection =>
    have hentry' : ∀ g, g ∈ y.normalize.usage ↔
        g ∈ x.resolved.map y.completedScope.fingerprint := by
      intro g
      rw [mem_usage_normalize_iff_resolved, resolved_congr hspec]
    simp only [hentry, hentry']
    exact hφ.bijOn
  case counts =>
    intro f hf
    exact hcounts f ((hentry f).mp hf)

/-- Two clusters that have a deployment in common, below a namespace and a name. -/
def renamedSample (namespaceName name : String) : Installation :=
  let pod (text : String) : Replica := ⟨{ podTemplate := some text }⟩
  let listing (replicas : List Replica) : Cluster :=
    { layout := { layoutType := .advanced, shards := [{ replicas }] } }
  { metadata := { namespaceName := some namespaceName, name := some name }
    spec := ⟨{}, ⟨[listing [pod "a", pod "b"], listing [pod "b"]]⟩⟩ }

theorem normalize_of_spec_eq_renamedSample :
    let x := renamedSample "clickhouse" "analytics"
    let y := renamedSample "staging" "analytics"
    x.spec = y.spec ∧ x.DigestsDiffer ∧ y.DigestsDiffer ∧
      x.normalize.value.fingerprintAt? 0 0 0 ≠ y.normalize.value.fingerprintAt? 0 0 0 ∧
      x.normalize.value.spec.withoutReplicaFingerprints =
        y.normalize.value.spec.withoutReplicaFingerprints ∧
      ∃ φ : Fingerprint → Fingerprint,
        ∀ f ∈ x.normalize.usage, y.normalize.usage.get (φ f) = x.normalize.usage.get f := by
  intro x y
  have hspec : x.spec = y.spec := rfl
  have hx : x.DigestsDiffer := by decide +kernel
  have hy : y.DigestsDiffer := by decide +kernel
  obtain ⟨htree, φ, -, -, hcounts⟩ := normalize_of_spec_eq hspec hx hy
  exact ⟨hspec, hx, hy, by decide +kernel, htree, φ, hcounts⟩

end Installation

end ClusterTopology
