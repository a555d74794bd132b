import Mathlib.Data.List.Basic
import Mathlib.Data.List.Nodup
import ClusterTopology.Proofs.Clashes
import ClusterTopology.Proofs.Sizing

/-!
# Names of replicas

The ID of a replica is made from the short ID of its fingerprint and its index, and
both can be read off again.  If no two fingerprints in use have the same short ID, then
IDs tell apart what stamps tell apart: all replicas of a cluster, but not those of
different clusters that share an instance.

## Main definitions

* `Cluster.deploymentIds`, `Installation.deploymentIds` — the IDs of all replicas.

## Main results

* `deploymentIdOf_inj` — an ID determines the short ID and the index.
* `Installation.deploymentId_eq_iff` — IDs tell apart what stamps tell apart.
* `Installation.deploymentIds_nodup` — **IDs are repeated between clusters only**, and
  exactly if these share a fingerprint.
-/

namespace ClusterTopology

/-! ### Reading an ID -/

theorem eq_nil_of_cons_eq_append_cons {α : Type} {a : α} {xs ys zs : List α} (hy : a ∉ ys)
    (h : a :: ys = xs ++ a :: zs) : xs = [] := by
  cases xs with
  | nil => rfl
  | cons x xs =>
    have htail : ys = xs ++ a :: zs := (List.cons.inj h).2
    have hmem : a ∈ ys := by
      rw [htail]
      exact List.mem_append_right xs List.mem_cons_self
    exact absurd hmem hy

/-- A list can be taken apart at the last of its separators. -/
theorem append_cons_inj_of_notMem_right {α : Type} {a : α} {xs ys us vs : List α} (hu : a ∉ us)
    (hv : a ∉ vs) : xs ++ a :: us = ys ++ a :: vs ↔ xs = ys ∧ us = vs := by
  constructor
  · intro h
    rcases List.append_eq_append_iff.mp h with ⟨cs, hys, hcs⟩ | ⟨cs, hxs, hcs⟩
    · obtain rfl := eq_nil_of_cons_eq_append_cons hu hcs
      rw [List.append_nil] at hys
      exact ⟨hys.symm, (List.cons.inj hcs).2⟩
    · obtain rfl := eq_nil_of_cons_eq_append_cons hv hcs
      rw [List.append_nil] at hxs
      exact ⟨hxs, (List.cons.inj hcs).2.symm⟩
  · rintro ⟨rfl, rfl⟩
    rfl

theorem dash_notMem_toDigits (n : Nat) : '-' ∉ Nat.toDigits 10 n := by
  intro h
  have hdigit := Nat.isDigit_of_mem_toDigits (by decide) (by decide) h
  exact absurd hdigit (by decide)

theorem toDigits_inj {i j : Nat} : Nat.toDigits 10 i = Nat.toDigits 10 j ↔ i = j := by
  constructor
  · intro h
    have hvalue := congrArg (fun digits => Nat.ofDigitChars 10 digits 0) h
    rwa [Nat.ofDigitChars_ten_toDigits, Nat.ofDigitChars_ten_toDigits] at hvalue
  · intro h
    rw [h]

theorem toList_deploymentIdOf (f : Fingerprint) (i : Nat) :
    (deploymentIdOf f i).toList = f.shortId.toList ++ '-' :: Nat.toDigits 10 i := by
  unfold deploymentIdOf
  rw [String.toList_append, String.toList_append, Nat.toString_eq_repr, Nat.toList_repr,
    List.append_assoc]
  rfl

/-- **An ID determines the short ID and the index.** -/
theorem deploymentIdOf_inj {f g : Fingerprint} {i j : Nat} :
    deploymentIdOf f i = deploymentIdOf g j ↔ f.shortId = g.shortId ∧ i = j := by
  rw [← String.toList_inj, toList_deploymentIdOf, toList_deploymentIdOf,
    append_cons_inj_of_notMem_right (dash_notMem_toDigits i) (dash_notMem_toDigits j),
    String.toList_inj, toDigits_inj]

theorem Replica.deploymentId_of_stamps? {r : Replica} {f : Fingerprint} {i : Nat}
    (h : r.stamps? = some (f, i)) : r.deploymentId = .ok (deploymentIdOf f i) := by
  obtain ⟨hf, hi⟩ := Replica.stamps?_eq_some_iff.mp h
  unfold deploymentId
  rw [hf, hi]

/-! ### The IDs of an installation -/

/-- The IDs of the replicas of a cluster. -/
def Cluster.deploymentIds (cluster : Cluster) : List (Except IdentityError String) :=
  cluster.replicas.map (·.replica.deploymentId)

/-- The IDs of replicas are listed with their stamps. -/
theorem Cluster.deploymentIds_of_stamps {cluster : Cluster} {ss : List (Fingerprint × Nat)}
    (h : cluster.stamps = ss.map some) :
    cluster.deploymentIds = ss.map fun s => .ok (deploymentIdOf s.1 s.2) := by
  have hstamps : (cluster.replicas.map (·.replica)).map Replica.stamps? = ss.map some := by
    rw [List.map_map]
    exact h
  have hids := map_eq_of_stamps hstamps fun r s hs => Replica.deploymentId_of_stamps? hs
  rw [List.map_map] at hids
  exact hids

namespace Installation

/-- The IDs of the replicas of an installation. -/
def deploymentIds (x : Installation) : List (Except IdentityError String) :=
  x.replicas.map (·.replica.deploymentId)

theorem exists_deploymentId {x : Installation} {p : PlacedReplica}
    (hp : p ∈ x.normalize.value.replicas) :
    ∃ f ∈ x.normalize.usage, ∃ i, p.replica.stamps? = some (f, i) ∧
      p.replica.deploymentId = .ok (deploymentIdOf f i) := by
  have hmem : p.replica.stamps? ∈ x.normalize.value.stamps := List.mem_map_of_mem hp
  obtain ⟨f, i, hs⟩ := exists_stamps_of_mem_normalize hmem
  rw [hs] at hmem
  have huse : f ∈ x.normalize.usage := Usage.mem_of_lt_get (mem_stamps_normalize.mp hmem)
  exact ⟨f, huse, i, hs, Replica.deploymentId_of_stamps? hs⟩

/-- If the check passes, then IDs tell apart what stamps tell apart. -/
theorem deploymentId_eq_iff {x : Installation} (h : x.normalize.usage.checkShortIds = .ok ())
    {p q : PlacedReplica} (hp : p ∈ x.normalize.value.replicas)
    (hq : q ∈ x.normalize.value.replicas) :
    p.replica.deploymentId = q.replica.deploymentId ↔ p.replica.stamps? = q.replica.stamps? := by
  obtain ⟨f, hf, i, hps, hpid⟩ := exists_deploymentId hp
  obtain ⟨g, hg, j, hqs, hqid⟩ := exists_deploymentId hq
  have hshort : f.shortId = g.shortId ↔ f = g :=
    ⟨Usage.checkShortIds_eq_ok_iff.mp h f hf g hg, fun hfg => by rw [hfg]⟩
  rw [hps, hqs, hpid, hqid, Except.ok.injEq, deploymentIdOf_inj, hshort, Option.some.injEq,
    Prod.mk.injEq]

/-- If the check passes, then among any replicas IDs are repeated with the stamps. -/
theorem nodup_map_deploymentId {x : Installation} (h : x.normalize.usage.checkShortIds = .ok ())
    {ps : List PlacedReplica} (hps : ps ⊆ x.normalize.value.replicas) :
    (ps.map (·.replica.deploymentId)).Nodup ↔ (ps.map (·.replica.stamps?)).Nodup := by
  unfold List.Nodup
  rw [List.pairwise_map, List.pairwise_map]
  apply List.Pairwise.iff_of_mem
  intro p q hp hq
  exact not_congr (deploymentId_eq_iff h (hps hp) (hps hq))

/-- **IDs are repeated between clusters only.**  If the check passes, then every replica
has an ID, and those of the replicas of one cluster are different.  Those of all
replicas of the installation are different exactly if no fingerprint occurs in two
clusters. -/
theorem deploymentIds_nodup {x : Installation} (h : x.normalize.usage.checkShortIds = .ok ()) :
    (∀ p ∈ x.normalize.value.replicas, ∃ id, p.replica.deploymentId = .ok id) ∧
      (∀ cluster ∈ x.normalize.value.clusters, cluster.deploymentIds.Nodup) ∧
      (x.normalize.value.deploymentIds.Nodup ↔
        x.normalize.value.clusters.Pairwise fun c d => ¬ c.SharesFingerprint d) := by
  refine ⟨?ids, ?cluster, ?installation⟩
  case ids =>
    intro p hp
    obtain ⟨f, -, i, -, hid⟩ := exists_deploymentId hp
    exact ⟨_, hid⟩
  case cluster =>
    -- the stamps of one cluster come from one count, which repeats none
    intro cluster hcluster
    have hsub : cluster.replicas ⊆ x.normalize.value.replicas := by
      intro p hp
      exact List.mem_flatMap_of_mem hcluster hp
    have hstamps : cluster.stamps.Nodup := by
      rw [clusters_normalize] at hcluster
      obtain ⟨own, -, rfl⟩ := List.mem_map.mp hcluster
      exact x.completedScope.nodup_stamps_normalize own
    exact (nodup_map_deploymentId h hsub).mpr hstamps
  case installation =>
    rw [← nodup_stamps_iff]
    exact nodup_map_deploymentId h fun _ hp => hp

/-- Two clusters with one replica each, and without settings. -/
def twinSample : Installation :=
  { spec := { configuration := ⟨[{ name := "a" }, { name := "b" }]⟩ } }

theorem checkShortIds_twinSample : twinSample.normalize.usage.checkShortIds = .ok () := by
  decide +kernel

theorem deploymentIds_nodup_twinSample :
    twinSample.normalize.usage.checkShortIds = .ok () ∧
      (∀ p ∈ twinSample.normalize.value.replicas, ∃ id, p.replica.deploymentId = .ok id) ∧
      (∀ cluster ∈ twinSample.normalize.value.clusters, cluster.deploymentIds.Nodup) ∧
      (twinSample.normalize.value.deploymentIds.Nodup ↔
        twinSample.normalize.value.clusters.Pairwise fun c d => ¬ c.SharesFingerprint d) :=
  ⟨checkShortIds_twinSample, deploymentIds_nodup checkShortIds_twinSample⟩

/-- The check alone does not make all IDs different. -/
theorem deploymentIds_twinSample_repeated :
    twinSample.normalize.usage.checkShortIds = .ok () ∧
      ¬ twinSample.normalize.value.deploymentIds.Nodup := by
  obtain ⟨id, hid⟩ : ∃ id, twinSample.normalize.value.deploymentIds = [.ok id, .ok id] := ⟨_, rfl⟩
  refine ⟨checkShortIds_twinSample, ?_⟩
  rw [hid]
  simp

end Installation

end ClusterTopology
