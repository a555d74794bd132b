import Mathlib.Data.List.Count
import Mathlib.Data.List.Dedup
import Mathlib.Data.Option.Basic
import ClusterTopology.Proofs.Stamps

/-!
# Sizing

The usage of a normalized installation tells how many instances of each deployment
are needed.  Replicas of different clusters may share an instance, which is why counts
are compared and not added: the stamps of each cluster begin at index zero, so that the
cluster that uses a deployment most has all of its stamps.

## Main definitions

* `Cluster.uses` — how many replicas of a cluster have a fingerprint.
* `Cluster.SharesFingerprint` — some fingerprint occurs in both of two clusters.
* `Installation.stamps` — the stamps of all replicas.

## Main results

* `Installation.mem_stamps_normalize`, `Installation.total_normalize` — the slots of the
  usage are the stamps of the installation.
* `Installation.nodup_stamps_iff` — stamps are repeated between clusters only.
* `Installation.sizing_exact` — **the usage is the exact size of the installation.**
-/

namespace ClusterTopology

theorem lt_foldr_max_iff {ns : List Nat} {i : Nat} : i < ns.foldr max 0 ↔ ∃ n ∈ ns, i < n := by
  induction ns with
  | nil => simp
  | cons n ns ih =>
    rw [List.foldr_cons, List.exists_mem_cons_iff, ← ih]
    omega

/-- The total of a usage is the number of any stamps without repetition that are just its
slots. -/
theorem Usage.total_eq_length {u : Usage} {ss : List (Option (Fingerprint × Nat))}
    (hnodup : ss.Nodup) (hstamped : ∀ s ∈ ss, ∃ f i, s = some (f, i))
    (hslot : ∀ f i, some (f, i) ∈ ss ↔ i < u.get f) : u.total = ss.length := by
  rw [← length_slots, ← List.length_map some]
  apply List.Perm.length_eq
  refine (List.perm_ext_iff_of_nodup
    (u.nodup_slots.map (Option.some_injective _)) hnodup).mpr fun s => ?_
  constructor
  · intro h
    obtain ⟨⟨f, i⟩, hfi, rfl⟩ := List.mem_map.mp h
    exact (hslot f i).mpr (mem_slots.mp hfi)
  · intro h
    obtain ⟨f, i, rfl⟩ := hstamped s h
    exact List.mem_map_of_mem (mem_slots.mpr ((hslot f i).mp h))

/-! ### Clusters -/

/-- The number of replicas of a cluster that have a fingerprint. -/
def Cluster.uses (cluster : Cluster) (f : Fingerprint) : Nat :=
  cluster.replicas.countP fun placed => placed.replica.deployment.fingerprint = some f

/-- Some fingerprint occurs in both clusters. -/
def Cluster.SharesFingerprint (c d : Cluster) : Prop := ∃ f, 0 < c.uses f ∧ 0 < d.uses f

namespace Scope

variable (scope : Scope)

/-- The replicas of a normalized cluster are stamped. -/
theorem exists_stamps_of_mem {cluster : Cluster} {s : Option (Fingerprint × Nat)}
    (h : s ∈ (scope.normalize cluster).value.stamps) : ∃ f i, s = some (f, i) := by
  rw [stamps_normalize] at h
  obtain ⟨⟨f, i⟩, -, rfl⟩ := List.mem_map.mp h
  exact ⟨f, i, rfl⟩

/-- **The indices of a fingerprint within a cluster are the numbers below its count.** -/
theorem mem_stamps_normalize {cluster : Cluster} {f : Fingerprint} {i : Nat} :
    some (f, i) ∈ (scope.normalize cluster).value.stamps ↔
      i < (scope.normalize cluster).usage.get f := by
  rw [stamps_normalize, List.mem_map_of_injective (Option.some_injective _), Usage.mem_stamps,
    usage_normalize_eq, Usage.get_empty]
  constructor
  · rintro ⟨-, hi⟩
    exact hi
  · intro hi
    exact ⟨Nat.zero_le i, hi⟩

theorem nodup_stamps_normalize (cluster : Cluster) :
    (scope.normalize cluster).value.stamps.Nodup := by
  rw [stamps_normalize]
  exact (Usage.nodup_stamps _ _).map (Option.some_injective _)

theorem map_fingerprint_normalize (cluster : Cluster) :
    (scope.normalize cluster).value.replicas.map (·.replica.deployment.fingerprint) =
      (scope.fingerprints cluster).map some := by
  have hstamps : ((scope.normalize cluster).value.replicas.map (·.replica)).map Replica.stamps? =
      (Usage.empty.stamps (scope.fingerprints cluster)).map some := by
    rw [List.map_map]
    exact scope.stamps_normalize cluster
  have hfingerprints := map_fingerprint_of_stamps hstamps
  rw [Usage.map_fst_stamps, List.map_map] at hfingerprints
  exact hfingerprints

/-- The usage of a normalized cluster counts its replicas by their fingerprints. -/
theorem uses_normalize (cluster : Cluster) (f : Fingerprint) :
    (scope.normalize cluster).value.uses f = (scope.normalize cluster).usage.get f := by
  have hfingerprints :
      ((scope.normalize cluster).value.replicas.map (·.replica)).map (·.deployment.fingerprint) =
        (scope.fingerprints cluster).map some := by
    rw [List.map_map]
    exact scope.map_fingerprint_normalize cluster
  have hcount := countP_fingerprint_eq hfingerprints f
  rw [List.countP_map] at hcount
  rw [usage_normalize_eq, Usage.get_addAll, Usage.get_empty, Nat.zero_add]
  exact hcount

/-- The usage of a normalized cluster has no entry with count zero. -/
theorem mem_usage_normalize {cluster : Cluster} {f : Fingerprint} :
    f ∈ (scope.normalize cluster).usage ↔ 0 < (scope.normalize cluster).usage.get f := by
  constructor
  · intro h
    rw [usage_normalize_eq, Usage.mem_addAll] at h
    have hmem : f ∈ scope.fingerprints cluster := h.resolve_left (Usage.notMem_empty f)
    rw [usage_normalize_eq, Usage.get_addAll, Usage.get_empty, Nat.zero_add]
    exact List.count_pos_iff.mpr hmem
  · exact Usage.mem_of_lt_get

/-- The stamps of clusters have nothing in common exactly if their fingerprints have
nothing in common, since every fingerprint begins at index zero. -/
theorem disjoint_stamps_iff (c d : Cluster) :
    List.Disjoint (scope.normalize c).value.stamps (scope.normalize d).value.stamps ↔
      ¬ (scope.normalize c).value.SharesFingerprint (scope.normalize d).value := by
  constructor
  · rintro h ⟨f, hc, hd⟩
    rw [uses_normalize] at hc hd
    exact h (scope.mem_stamps_normalize.mpr hc) (scope.mem_stamps_normalize.mpr hd)
  · intro h s hc hd
    obtain ⟨f, i, rfl⟩ := scope.exists_stamps_of_mem hc
    rw [mem_stamps_normalize] at hc hd
    refine h ⟨f, ?_, ?_⟩
    · rw [uses_normalize]
      omega
    · rw [uses_normalize]
      omega

end Scope

/-! ### Installations -/

namespace Installation

/-- The stamps of the replicas of an installation, cluster by cluster. -/
def stamps (x : Installation) : List (Option (Fingerprint × Nat)) :=
  x.replicas.map (·.replica.stamps?)

theorem stamps_eq_flatMap (x : Installation) : x.stamps = x.clusters.flatMap Cluster.stamps := by
  unfold stamps replicas
  rw [List.map_flatMap]
  rfl

theorem mem_stamps_normalize_iff {x : Installation} {s : Option (Fingerprint × Nat)} :
    s ∈ x.normalize.value.stamps ↔
      ∃ cluster ∈ x.clusters, s ∈ (x.completedScope.normalize cluster).value.stamps := by
  rw [stamps_eq_flatMap, clusters_normalize, List.flatMap_map, List.mem_flatMap]

theorem lt_get_usage_normalize {x : Installation} {f : Fingerprint} {i : Nat} :
    i < x.normalize.usage.get f ↔
      ∃ cluster ∈ x.clusters, i < (x.completedScope.normalize cluster).usage.get f := by
  rw [usage_normalize, Usage.lt_get_foldl_sup, Usage.get_empty]
  simp

/-- **The slots of the usage are the stamps of the installation.** -/
theorem mem_stamps_normalize {x : Installation} {f : Fingerprint} {i : Nat} :
    some (f, i) ∈ x.normalize.value.stamps ↔ i < x.normalize.usage.get f := by
  rw [mem_stamps_normalize_iff, lt_get_usage_normalize]
  exact exists_congr fun cluster => and_congr_right fun _ =>
    x.completedScope.mem_stamps_normalize

theorem exists_stamps_of_mem_normalize {x : Installation} {s : Option (Fingerprint × Nat)}
    (h : s ∈ x.normalize.value.stamps) : ∃ f i, s = some (f, i) := by
  obtain ⟨cluster, -, hs⟩ := mem_stamps_normalize_iff.mp h
  exact x.completedScope.exists_stamps_of_mem hs

theorem mem_usage_normalize {x : Installation} {f : Fingerprint} :
    f ∈ x.normalize.usage ↔ 0 < x.normalize.usage.get f := by
  rw [lt_get_usage_normalize, usage_normalize, Usage.mem_foldl_sup]
  constructor
  · rintro (h | ⟨cluster, hcluster, h⟩)
    · exact absurd h (Usage.notMem_empty f)
    · exact ⟨cluster, hcluster, x.completedScope.mem_usage_normalize.mp h⟩
  · rintro ⟨cluster, hcluster, h⟩
    exact Or.inr ⟨cluster, hcluster, x.completedScope.mem_usage_normalize.mpr h⟩

/-- The total of the usage is the number of different stamps. -/
theorem total_normalize (x : Installation) :
    x.normalize.usage.total = x.normalize.value.stamps.dedup.length := by
  apply Usage.total_eq_length (List.nodup_dedup _)
  · intro s hs
    exact exists_stamps_of_mem_normalize (List.mem_dedup.mp hs)
  · intro f i
    rw [List.mem_dedup, mem_stamps_normalize]

/-- Stamps are repeated between clusters only: there is no repetition exactly if no
fingerprint occurs in two clusters. -/
theorem nodup_stamps_iff (x : Installation) :
    x.normalize.value.stamps.Nodup ↔
      x.normalize.value.clusters.Pairwise fun c d => ¬ c.SharesFingerprint d := by
  rw [stamps_eq_flatMap, List.nodup_flatMap, clusters_normalize, List.pairwise_map,
    List.pairwise_map]
  constructor
  · rintro ⟨-, h⟩
    exact h.imp fun hdisjoint => (x.completedScope.disjoint_stamps_iff _ _).mp hdisjoint
  · intro h
    refine ⟨fun cluster hcluster => ?_, h.imp (x.completedScope.disjoint_stamps_iff _ _).mpr⟩
    obtain ⟨cluster, -, rfl⟩ := List.mem_map.mp hcluster
    exact x.completedScope.nodup_stamps_normalize cluster

/-- The count of a fingerprint is the greatest number of replicas of one cluster that
have it. -/
theorem get_usage_normalize (x : Installation) (f : Fingerprint) :
    x.normalize.usage.get f = (x.normalize.value.clusters.map (·.uses f)).foldr max 0 := by
  -- the same numbers are below both
  refine eq_of_forall_lt_iff fun i => ?_
  rw [lt_get_usage_normalize, lt_foldr_max_iff, clusters_normalize, List.map_map]
  constructor
  · rintro ⟨cluster, hcluster, hi⟩
    refine ⟨_, List.mem_map_of_mem hcluster, ?_⟩
    rw [Function.comp_apply, Scope.uses_normalize]
    exact hi
  · rintro ⟨n, hn, hi⟩
    obtain ⟨cluster, hcluster, rfl⟩ := List.mem_map.mp hn
    rw [Function.comp_apply, Scope.uses_normalize] at hi
    exact ⟨cluster, hcluster, hi⟩

/-- A replica has a fingerprint exactly if it is stamped with it and some index. -/
theorem exists_fingerprint_iff {x : Installation} {f : Fingerprint} :
    (∃ p ∈ x.normalize.value.replicas, p.replica.deployment.fingerprint = some f) ↔
      ∃ i, some (f, i) ∈ x.normalize.value.stamps := by
  constructor
  · rintro ⟨p, hp, hf⟩
    have hmem : p.replica.stamps? ∈ x.normalize.value.stamps := List.mem_map_of_mem hp
    obtain ⟨g, i, hs⟩ := exists_stamps_of_mem_normalize hmem
    have hg := (Replica.stamps?_eq_some_iff.mp hs).1
    obtain rfl : f = g := Option.some.inj (hf.symm.trans hg)
    exact ⟨i, hs ▸ hmem⟩
  · rintro ⟨i, hmem⟩
    obtain ⟨p, hp, hs⟩ := List.mem_map.mp hmem
    exact ⟨p, hp, (Replica.stamps?_eq_some_iff.mp hs).1⟩

/-- There are entries for the fingerprints of replicas only. -/
theorem mem_usage_normalize_iff_exists {x : Installation} {f : Fingerprint} :
    f ∈ x.normalize.usage ↔
      ∃ p ∈ x.normalize.value.replicas, p.replica.deployment.fingerprint = some f := by
  rw [mem_usage_normalize, exists_fingerprint_iff]
  constructor
  · intro h
    exact ⟨0, mem_stamps_normalize.mpr h⟩
  · rintro ⟨i, h⟩
    have hi := mem_stamps_normalize.mp h
    omega

/-- **The usage is the exact size of the installation.**  Every replica is stamped, and
the stamps with a fingerprint `f` have just the indices below the count of `f`, which is
the greatest number of replicas of one cluster that have it.  There are entries for the
fingerprints of replicas only.  So the total is the number of different stamps; it is
the number of replicas exactly if no fingerprint occurs in two clusters. -/
theorem sizing_exact (x : Installation) :
    (∀ p ∈ x.normalize.value.replicas, ∃ f i, p.replica.stamps? = some (f, i)) ∧
      (∀ f i, (∃ p ∈ x.normalize.value.replicas, p.replica.stamps? = some (f, i)) ↔
        i < x.normalize.usage.get f) ∧
      (∀ f, x.normalize.usage.get f =
        (x.normalize.value.clusters.map (·.uses f)).foldr max 0) ∧
      (∀ f, (∃ n, (f, n) ∈ x.normalize.usage.toList) ↔
        ∃ p ∈ x.normalize.value.replicas, p.replica.deployment.fingerprint = some f) ∧
      x.normalize.usage.total =
        (x.normalize.value.replicas.map (·.replica.stamps?)).dedup.length ∧
      x.normalize.usage.total ≤ x.normalize.value.replicas.length ∧
      (x.normalize.usage.total = x.normalize.value.replicas.length ↔
        x.normalize.value.clusters.Pairwise fun c d => ¬ c.SharesFingerprint d) := by
  have hsub : x.normalize.value.stamps.dedup.Sublist x.normalize.value.stamps :=
    List.dedup_sublist _
  have hlength : x.normalize.value.stamps.length = x.normalize.value.replicas.length :=
    List.length_map _
  refine ⟨?stamped, ?slots, x.get_usage_normalize, ?entries, x.total_normalize, ?le, ?eq⟩
  case stamped =>
    intro p hp
    exact exists_stamps_of_mem_normalize (List.mem_map_of_mem hp)
  case slots =>
    intro f i
    rw [← mem_stamps_normalize]
    exact List.mem_map.symm
  case entries =>
    intro f
    rw [← Usage.mem_iff_exists, mem_usage_normalize_iff_exists]
  case le =>
    rw [total_normalize, ← hlength]
    exact hsub.length_le
  case eq =>
    rw [total_normalize, ← hlength, ← nodup_stamps_iff, ← List.dedup_eq_self]
    constructor
    · exact hsub.eq_of_length
    · intro h
      rw [h]

end Installation

end ClusterTopology
