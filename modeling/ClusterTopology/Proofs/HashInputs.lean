import ClusterTopology.Proofs.CanonicalTexts
import ClusterTopology.Proofs.Stamps
import ClusterTopology.Wire.Installation

/-!
# What is hashed

A fingerprint is the digest of three texts that are put one after the other: a namespace,
a name and the canonical text of a deployment.  Canonical texts are read back under a
condition on the texts in them, and then different variants of one installation are hashed
differently.  Nothing stands between the namespace and the name, so that the boundary
between them is lost; that of two installations is the same only if it happens to be at the
same place.

## Main results

* `Installation.fingerprint_of_mem_normalize` — what is hashed for a replica is its
  deployment as a normalization leaves it.
* `Installation.hashInput_eq_iff_sameSettings` — **replicas with plain texts are hashed
  alike exactly if they are of one variant.**
* `Installation.hashInput_eq_iff_append` — **a deployment is hashed alike in two
  installations exactly if their namespaces and names run together to the same text.**
-/

namespace ClusterTopology

theorem Deployment.hashInput_inj {namespaceName name namespaceName' name' : String}
    {d e : Deployment} :
    d.hashInput namespaceName name = e.hashInput namespaceName' name' ↔
      namespaceName ++ name ++ d.canonical = namespaceName' ++ name' ++ e.canonical :=
  String.toByteArray_inj

/-! ### Replicas of one installation -/

/-- The replicas of a normalized cluster carry the fingerprints of their deployments. -/
theorem Scope.fingerprint_of_mem_normalize (scope : Scope) {cluster : Cluster} {p : PlacedReplica}
    (hp : p ∈ (scope.normalize cluster).value.replicas) :
    p.replica.deployment.fingerprint = some (scope.fingerprint p.replica.deployment) := by
  have hmem : p.replica ∈ (scope.normalize cluster).value.layout.shards.flatMap (·.replicas) := by
    rw [← Cluster.map_replica_replicas]
    exact List.mem_map_of_mem hp
  obtain ⟨shard, hshard, hreplica⟩ := List.mem_flatMap.mp hmem
  rw [shards_normalize] at hshard
  -- a step for a shard is in turn a run of steps, each of which stamps one replica
  let stamped (shard : Shard) : Prop := ∀ r ∈ shard.replicas,
    r.deployment.fingerprint = some (scope.fingerprint r.deployment)
  have hstep : ∀ u, ∀ shard ∈ scope.expandedShards cluster,
      stamped (scope.resolveShard u shard).value := by
    intro u shard _
    exact Outcome.forall_mem_value_each (scope.resolveReplica shard.deployment)
      (fun _ _ _ => rfl) u
  have hrun := Outcome.forall_mem_value_each scope.resolveShard (P := stamped) hstep .empty
  exact hrun shard hshard p.replica hreplica

namespace Installation

theorem fingerprint_of_mem_normalize {x : Installation} {p : PlacedReplica}
    (hp : p ∈ x.normalize.value.replicas) :
    p.replica.deployment.fingerprint =
      some (p.replica.deployment.fingerprintIn x.namespaceOrEmpty x.nameOrEmpty) := by
  obtain ⟨cluster, hcluster, hp⟩ := List.mem_flatMap.mp hp
  rw [clusters_normalize] at hcluster
  obtain ⟨own, -, rfl⟩ := List.mem_map.mp hcluster
  exact x.completedScope.fingerprint_of_mem_normalize hp

/-- **Replicas with plain texts are hashed alike exactly if they are of one variant.**  What
is hashed for a replica is its deployment as the normalization leaves it. -/
theorem hashInput_eq_iff_sameSettings {x : Installation} {p q : PlacedReplica}
    (hp : p ∈ x.normalize.value.replicas) (hq : q ∈ x.normalize.value.replicas)
    (hplain : p.replica.deployment.PlainTexts) (hplain' : q.replica.deployment.PlainTexts) :
    p.replica.deployment.fingerprint =
        some (p.replica.deployment.fingerprintIn x.namespaceOrEmpty x.nameOrEmpty) ∧
      q.replica.deployment.fingerprint =
        some (q.replica.deployment.fingerprintIn x.namespaceOrEmpty x.nameOrEmpty) ∧
      (p.replica.deployment.hashInput x.namespaceOrEmpty x.nameOrEmpty =
          q.replica.deployment.hashInput x.namespaceOrEmpty x.nameOrEmpty ↔
        p.replica.deployment.SameSettings q.replica.deployment) := by
  refine ⟨fingerprint_of_mem_normalize hp, fingerprint_of_mem_normalize hq, ?_⟩
  rw [Deployment.hashInput_inj, String.append_right_inj, Deployment.canonical_eq_iff hplain hplain']

/-- One cluster that lists two replicas with the given deployments. -/
def pairSample (d e : Deployment) : Installation :=
  let shard : Shard := { replicas := [⟨d⟩, ⟨e⟩] }
  { spec := { configuration := ⟨[{ layout := { layoutType := .advanced, shards := [shard] } }]⟩ } }

/-- Texts that are plain, although each has a colon. -/
def colonSample : Installation :=
  pairSample { podTemplate := some "a:b", volumeClaimTemplate := some "c" }
    { podTemplate := some "a", volumeClaimTemplate := some ":b:c", zone := ⟨.ofList [("k", "=")]⟩ }

theorem hashInput_eq_iff_sameSettings_colonSample :
    ∃ p ∈ colonSample.normalize.value.replicas, ∃ q ∈ colonSample.normalize.value.replicas,
      p.replica.deployment.PlainTexts ∧ q.replica.deployment.PlainTexts ∧
      p.replica.deployment.hashInput "" "" ≠ q.replica.deployment.hashInput "" "" := by
  obtain ⟨p, hp, q, hq, hplain, hplain', hne⟩ :
      ∃ p ∈ colonSample.normalize.value.replicas, ∃ q ∈ colonSample.normalize.value.replicas,
        p.replica.deployment.PlainTexts ∧ q.replica.deployment.PlainTexts ∧
        ¬ p.replica.deployment.SameSettings q.replica.deployment := by
    decide +kernel
  have hiff := (hashInput_eq_iff_sameSettings hp hq hplain hplain').2.2
  exact ⟨p, hp, q, hq, hplain, hplain', fun h => hne (hiff.mp h)⟩

/-- The document of a cluster with two replicas, of which one has a separator in the name of
its pod template, and the other one in that of its volume claim template. -/
def separatorDocument : Json :=
  let deployment (pod volume : String) : Json :=
    .obj [("podTemplate", .str pod), ("volumeClaimTemplate", .str volume)]
  let replica (pod volume : String) : Json := .obj [("deployment", deployment pod volume)]
  let shard : Json := .obj [("replicas", .arr [replica "a::b" "c", replica "a" "b::c"])]
  let layout : Json := .obj [("type", .str "Advanced"), ("shards", .arr [shard])]
  let configuration : Json := .obj [("clusters", .arr [.obj [("layout", layout)]])]
  .obj [("metadata", .obj []), ("spec", .obj [("configuration", configuration)])]

/-- A separator in a text makes two variants one. -/
theorem hashInput_separatorDocument :
    ∃ x : Installation, Wire.decode separatorDocument = .ok x ∧
      ∃ p ∈ x.normalize.value.replicas, ∃ q ∈ x.normalize.value.replicas,
        p.replica.deployment.hashInput x.namespaceOrEmpty x.nameOrEmpty =
          q.replica.deployment.hashInput x.namespaceOrEmpty x.nameOrEmpty ∧
        ¬ p.replica.deployment.SameSettings q.replica.deployment := by
  refine ⟨pairSample { podTemplate := some "a::b", volumeClaimTemplate := some "c" }
    { podTemplate := some "a", volumeClaimTemplate := some "b::c" }, rfl, ?_⟩
  decide +kernel

/-! ### Different installations -/

/-- **A deployment is hashed alike in two installations exactly if their namespaces and
names run together to the same text.**  If the boundary between them is at the same place,
in particular if the installations agree in one of the two, then they agree in both. -/
theorem hashInput_eq_iff_append (d : Deployment) (x y : Installation) :
    (d.hashInput x.namespaceOrEmpty x.nameOrEmpty = d.hashInput y.namespaceOrEmpty y.nameOrEmpty ↔
      x.namespaceOrEmpty ++ x.nameOrEmpty = y.namespaceOrEmpty ++ y.nameOrEmpty) ∧
    (x.namespaceOrEmpty.length = y.namespaceOrEmpty.length ∨
        x.nameOrEmpty.length = y.nameOrEmpty.length →
      (d.hashInput x.namespaceOrEmpty x.nameOrEmpty =
          d.hashInput y.namespaceOrEmpty y.nameOrEmpty ↔
        (x.namespaceOrEmpty, x.nameOrEmpty) = (y.namespaceOrEmpty, y.nameOrEmpty))) := by
  have happend : d.hashInput x.namespaceOrEmpty x.nameOrEmpty =
      d.hashInput y.namespaceOrEmpty y.nameOrEmpty ↔
        x.namespaceOrEmpty ++ x.nameOrEmpty = y.namespaceOrEmpty ++ y.nameOrEmpty := by
    rw [Deployment.hashInput_inj, String.append_left_inj]
  refine ⟨happend, fun hlength => ?_⟩
  rw [happend, Prod.mk.injEq]
  constructor
  · intro h
    have hchars : x.namespaceOrEmpty.toList ++ x.nameOrEmpty.toList =
        y.namespaceOrEmpty.toList ++ y.nameOrEmpty.toList := by
      rw [← String.toList_append, ← String.toList_append, h]
    simp only [← String.length_toList] at hlength
    rcases hlength with hnamespace | hname
    · obtain ⟨hfirst, hsecond⟩ := List.append_inj hchars hnamespace
      exact ⟨String.toList_inj.mp hfirst, String.toList_inj.mp hsecond⟩
    · obtain ⟨hfirst, hsecond⟩ := List.append_inj' hchars hname
      exact ⟨String.toList_inj.mp hfirst, String.toList_inj.mp hsecond⟩
  · rintro ⟨hnamespace, hname⟩
    rw [hnamespace, hname]

/-- An installation of which only the namespace and the name are given. -/
def namedSample (namespaceName name : String) : Installation :=
  { metadata := { namespaceName := some namespaceName, name := some name } }

theorem hashInput_eq_iff_append_namedSample :
    ({} : Deployment).hashInput "clickhouse" "analytics" ≠
      ({} : Deployment).hashInput "clickhouse" "analytics-staging" := by
  have hiff := (hashInput_eq_iff_append {} (namedSample "clickhouse" "analytics")
    (namedSample "clickhouse" "analytics-staging")).2 (Or.inl rfl)
  intro h
  exact absurd (hiff.mp h) (by decide)

/-- The boundary between namespace and name is lost. -/
theorem hashInput_namedSample_shifted :
    ((namedSample "a" "bc").namespaceOrEmpty, (namedSample "a" "bc").nameOrEmpty) ≠
        ((namedSample "ab" "c").namespaceOrEmpty, (namedSample "ab" "c").nameOrEmpty) ∧
      ({ scenario := some "Default" } : Deployment).hashInput
          (namedSample "a" "bc").namespaceOrEmpty (namedSample "a" "bc").nameOrEmpty =
        ({ scenario := some "Default" } : Deployment).hashInput
          (namedSample "ab" "c").namespaceOrEmpty (namedSample "ab" "c").nameOrEmpty := by
  decide +kernel

end Installation

end ClusterTopology
