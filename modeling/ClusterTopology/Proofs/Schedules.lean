import ClusterTopology.Proofs.Absorption
import ClusterTopology.Proofs.Counts

/-!
# Cluster by cluster

The defaults of an installation may be filled in first and its clusters normalized one by
one, as they come up, with their usages merged into one.  Clusters have nothing to do with
each other, a cluster that comes up again stays as it is and has the same usage, and the
larger of two counts does not depend on which came first.  So any schedule that leaves out
no cluster comes to the same end as one normalization.

## Main definitions

* `Installation.normalizeStep` — one cluster normalized, and its usage merged.
* `Installation.partlyNormalized` — the installation after some clusters came up.

## Main results

* `Installation.normalizeStep_partlyNormalized`, `Installation.foldlM_partlyNormalized` —
  what one step does, and a schedule of steps.
* `Installation.foldlM_normalizeStep` — **every schedule with all clusters normalizes the
  installation.**
-/

namespace ClusterTopology.Installation

/-- The installation with the cluster at index `i` normalized below the defaults as they
are, and the usage with that of the cluster merged into it; none if there is no such
cluster. -/
def normalizeStep (state : Installation × Usage) (i : Nat) : Option (Installation × Usage) :=
  (state.1.normalizeAt state.1.scope i).map fun o => (o.value, state.2.sup o.usage)

variable (x : Installation)

/-- The installation with its defaults filled in and the clusters at some indices
normalized. -/
def partlyNormalized (done : List Nat) : Installation :=
  x.completeDefaults.withClusters (x.clusters.mapIdx fun i cluster =>
    if i ∈ done then (x.completedScope.normalize cluster).value else cluster)

/-- The usage of the cluster at index `i` alone, empty if there is no such cluster. -/
def clusterUsage (i : Nat) : Usage :=
  (x.clusters[i]?.map fun cluster => (x.completedScope.normalize cluster).usage).getD .empty

theorem getElem?_partlyNormalized (done : List Nat) (i : Nat) :
    (x.partlyNormalized done).clusters[i]? = x.clusters[i]?.map fun cluster =>
      if i ∈ done then (x.completedScope.normalize cluster).value else cluster :=
  List.getElem?_mapIdx

theorem partlyNormalized_nil : x.partlyNormalized [] = x.completeDefaults := by
  have hclusters : (x.partlyNormalized []).clusters = x.clusters := by
    apply List.ext_getElem?
    intro i
    rw [getElem?_partlyNormalized]
    simp
  exact congrArg x.completeDefaults.withClusters hclusters

/-- Once all clusters have come up the installation is normalized. -/
theorem partlyNormalized_of_forall_mem {done : List Nat}
    (h : ∀ i, i < x.clusters.length → i ∈ done) : x.partlyNormalized done = x.normalize.value := by
  have hclusters : (x.partlyNormalized done).clusters = x.normalize.value.clusters := by
    apply List.ext_getElem?
    intro i
    rw [getElem?_partlyNormalized, clusters_normalize, List.getElem?_map]
    refine Option.map_congr fun cluster hcluster => ?_
    obtain ⟨hi, -⟩ := List.getElem?_eq_some_iff.mp hcluster
    rw [if_pos (h i hi)]
  exact congrArg x.completeDefaults.withClusters hclusters

/-- With one more cluster replaced by what it is normalized to. -/
theorem set_partlyNormalized (done : List Nat) {i : Nat} {cluster : Cluster}
    (hcluster : x.clusters[i]? = some cluster) :
    (x.partlyNormalized done).clusters.set i (x.completedScope.normalize cluster).value =
      (x.partlyNormalized (done ++ [i])).clusters := by
  apply List.ext_getElem?
  intro j
  by_cases hj : j = i
  · subst hj
    have hlength : (x.partlyNormalized done).clusters.length = x.clusters.length :=
      List.length_mapIdx
    obtain ⟨hlt, -⟩ := List.getElem?_eq_some_iff.mp hcluster
    have hmem : j ∈ done ++ [j] := List.mem_append_right done (List.mem_singleton.mpr rfl)
    rw [List.getElem?_set_self (hlength ▸ hlt), getElem?_partlyNormalized, hcluster,
      Option.map_some, if_pos hmem]
  · have hmem : j ∈ done ++ [i] ↔ j ∈ done := by simp [hj]
    rw [List.getElem?_set_ne (Ne.symm hj), getElem?_partlyNormalized, getElem?_partlyNormalized]
    simp only [hmem]

/-- The step for a cluster, whether it has come up before or not. -/
theorem normalizeStep_partlyNormalized (done : List Nat) (usage : Usage) {i : Nat}
    (hi : i < x.clusters.length) :
    normalizeStep (x.partlyNormalized done, usage) i =
      some (x.partlyNormalized (done ++ [i]), usage.sup (x.clusterUsage i)) := by
  obtain ⟨cluster, hcluster⟩ : ∃ cluster, x.clusters[i]? = some cluster :=
    ⟨_, List.getElem?_eq_getElem hi⟩
  let current := if i ∈ done then (x.completedScope.normalize cluster).value else cluster
  have hcurrent : (x.partlyNormalized done).clusters[i]? = some current := by
    rw [getElem?_partlyNormalized, hcluster]
    rfl
  -- a cluster that came up before is normalized to the same outcome once more
  have hagain : x.completedScope.normalize current = x.completedScope.normalize cluster := by
    dsimp only [current]
    split
    · exact Scope.normalize_normalize (.refl x.completedScope) cluster
    · rfl
  have husage : x.clusterUsage i = (x.completedScope.normalize cluster).usage := by
    unfold clusterUsage
    rw [hcluster]
    rfl
  have hscope : (x.partlyNormalized done).scope = x.completedScope := rfl
  unfold normalizeStep normalizeAt
  dsimp only
  rw [hcurrent, hscope, Option.map_some, hagain, Option.map_some, Outcome.value_map,
    Outcome.usage_map, x.set_partlyNormalized done hcluster, husage]
  rfl

/-- A schedule of clusters, from an installation of which some came up before. -/
theorem foldlM_partlyNormalized (schedule : List Nat) (h : ∀ i ∈ schedule, i < x.clusters.length)
    (done : List Nat) (usage : Usage) :
    schedule.foldlM normalizeStep (x.partlyNormalized done, usage) =
      some (x.partlyNormalized (done ++ schedule),
        schedule.foldl (fun u i => u.sup (x.clusterUsage i)) usage) := by
  induction schedule generalizing done usage with
  | nil => rw [List.append_nil]; rfl
  | cons i schedule ih =>
    obtain ⟨hi, hrest⟩ := List.forall_mem_cons.mp h
    rw [List.foldlM_cons, x.normalizeStep_partlyNormalized done usage hi]
    refine (ih hrest _ _).trans ?_
    rw [List.append_assoc, List.singleton_append, List.foldl_cons]

/-- The usages of a schedule with all clusters are those of the clusters in order. -/
theorem foldl_sup_schedule {schedule : List Nat} (h : ∀ i, i ∈ schedule ↔ i < x.clusters.length) :
    schedule.foldl (fun u i => u.sup (x.clusterUsage i)) .empty = x.normalize.usage := by
  rw [usage_normalize]
  apply Usage.foldl_sup_congr
  · intro i hi
    have hlt := (h i).mp hi
    refine ⟨x.clusters[i], List.getElem_mem hlt, ?_⟩
    rw [clusterUsage, List.getElem?_eq_getElem hlt]
    rfl
  · intro cluster hcluster
    obtain ⟨i, hi⟩ := List.mem_iff_getElem?.mp hcluster
    obtain ⟨hlt, -⟩ := List.getElem?_eq_some_iff.mp hi
    refine ⟨i, (h i).mpr hlt, ?_⟩
    rw [clusterUsage, hi]
    rfl

/-- **Every schedule with all clusters normalizes the installation**, in whatever order they
come up and how often: the defaults are filled in, then the clusters are normalized one by
one and their usages merged, and the end is the normalized installation with its usage. -/
theorem foldlM_normalizeStep {schedule : List Nat}
    (h : ∀ i, i ∈ schedule ↔ i < x.clusters.length) :
    schedule.foldlM normalizeStep (x.completeDefaults, .empty) =
      some (x.normalize.value, x.normalize.usage) := by
  have hvalid : ∀ i ∈ schedule, i < x.clusters.length := fun i hi => (h i).mp hi
  have hall : ∀ i, i < x.clusters.length → i ∈ [] ++ schedule := fun i hi => (h i).mpr hi
  rw [← x.partlyNormalized_nil, x.foldlM_partlyNormalized schedule hvalid,
    x.partlyNormalized_of_forall_mem hall, x.foldl_sup_schedule h]

/-- Two clusters with different deployments. -/
def scheduledSample : Installation :=
  let first : Cluster := { name := "first", layout := { shardsCount := 2 } }
  let second : Cluster := { name := "second", deployment := { podTemplate := some "pod" } }
  { spec := ⟨{}, ⟨[first, second]⟩⟩ }

theorem foldlM_normalizeStep_scheduledSample :
    (∀ i, i ∈ [1, 0, 1] ↔ i < scheduledSample.clusters.length) ∧
      [1, 0, 1].foldlM normalizeStep (scheduledSample.completeDefaults, .empty) =
        some (scheduledSample.normalize.value, scheduledSample.normalize.usage) := by
  have hall : ∀ i, i ∈ [1, 0, 1] ↔ i < scheduledSample.clusters.length := by
    intro i
    have hlength : scheduledSample.clusters.length = 2 := rfl
    rw [hlength]
    simp only [List.mem_cons, List.not_mem_nil, or_false]
    omega
  exact ⟨hall, foldlM_normalizeStep scheduledSample hall⟩

end ClusterTopology.Installation
