import ClusterTopology.Normalization
import Mathlib.Data.List.Forall2

/-!
# Runs of steps

A normalization is a run of steps within runs of steps: clusters, their shards and
the replicas of these, with a usage passed on from each step to the next.  What
holds of every step, from whatever usage, is carried over to runs here, and the
outcome of a normalization is taken apart into those of its clusters.

## Main results

* `Outcome.getElem?_value_each_take` — each value of a run is that of a step for its item, from
  the usage that the items before it leave.
* `Outcome.forall₂_value_each` — what a step keeps of its item, a run keeps of every item.
* `Outcome.each_value_each` — a run over the values of another run.
* `Outcome.each_map_comm`, `Outcome.each_mapIdx_comm` — a run over changed items has changed
  values.
* `Outcome.Follows.each` — what relates the steps of two runs over the same items relates the
  runs.
* `Installation.clusters_normalize`, `Installation.usage_normalize` — the clusters of
  a normalized installation, and its usage.
-/

namespace ClusterTopology

/-! ### Runs over a list -/

namespace Outcome

variable {α β γ δ : Type}

/-- Each value of a run is that of a step for the item at its place, from the usage that the
items before it leave. -/
theorem getElem?_value_each_take (step : Usage → α → Outcome β) (usage : Usage) (items : List α)
    (i : Nat) :
    (each step usage items).value[i]? =
      items[i]?.map fun item => (step (each step usage (items.take i)).usage item).value := by
  induction items generalizing usage i with
  | nil => rfl
  | cons item items ih =>
    cases i with
    | zero => rfl
    | succ i => exact ih (step usage item).usage i

/-- Each value of a run is that of a step for the item at its place, from some usage. -/
theorem getElem?_value_each (step : Usage → α → Outcome β) (usage : Usage) (items : List α)
    (i : Nat) :
    ∃ v, (each step usage items).value[i]? = items[i]?.map fun item => (step v item).value :=
  ⟨_, getElem?_value_each_take step usage items i⟩

/-- What holds of the value of every step for one of the items holds of all values of a run. -/
theorem forall_mem_value_each (step : Usage → α → Outcome β) {P : β → Prop} {items : List α}
    (h : ∀ u, ∀ item ∈ items, P (step u item).value) (usage : Usage) :
    ∀ b ∈ (each step usage items).value, P b := by
  intro b hb
  obtain ⟨i, hi⟩ := List.mem_iff_getElem?.mp hb
  obtain ⟨v, hv⟩ := getElem?_value_each step usage items i
  obtain ⟨item, hitem, rfl⟩ := Option.map_eq_some_iff.mp (hv.symm.trans hi)
  exact h v item (List.mem_of_getElem? hitem)

/-- If every step relates its item to its value, then so does a run, item by item. -/
theorem forall₂_value_each {step : Usage → α → Outcome β} {R : α → β → Prop}
    (h : ∀ u item, R item (step u item).value) (usage : Usage) (items : List α) :
    List.Forall₂ R items (each step usage items).value := by
  induction items generalizing usage with
  | nil => exact .nil
  | cons item items ih => exact .cons (h usage item) (ih (step usage item).usage)

/-- What a step keeps of its item, a run keeps of all items. -/
theorem map_value_each {step : Usage → α → Outcome β} {g : β → γ} {g' : α → γ}
    (h : ∀ u item, g (step u item).value = g' item) (usage : Usage) (items : List α) :
    (each step usage items).value.map g = items.map g' := by
  induction items generalizing usage with
  | nil => rfl
  | cons item items ih => rw [each_cons, List.map_cons, List.map_cons, h, ih]

@[simp] theorem length_value_each (step : Usage → α → Outcome β) (usage : Usage)
    (items : List α) : (each step usage items).value.length = items.length := by
  induction items generalizing usage with
  | nil => rfl
  | cons item items ih => rw [each_cons, List.length_cons, List.length_cons, ih]

theorem value_each_append (step : Usage → α → Outcome β) (usage : Usage) (items more : List α) :
    (each step usage (items ++ more)).value =
      (each step usage items).value ++ (each step (each step usage items).usage more).value := by
  induction items generalizing usage with
  | nil => rfl
  | cons item items ih =>
    rw [List.cons_append, each_cons, each_cons, ih, List.cons_append]

/-- A run over the values of another run, if a step takes the value of the other step
as it takes the item itself. -/
theorem each_value_each {step : Usage → β → Outcome γ} {first : Usage → α → Outcome β}
    {whole : Usage → α → Outcome γ}
    (h : ∀ u v item, step u (first v item).value = whole u item) (u v : Usage) (items : List α) :
    each step u (each first v items).value = each whole u items := by
  induction items generalizing u v with
  | nil => rfl
  | cons item items ih =>
    rw [each_cons first, each_cons step, each_cons whole, h, ih]

/-- A run over a list with the item at index `i` replaced, if a step does not tell the
items apart. -/
theorem each_set {step : Usage → α → Outcome β} {items : List α} {i : Nat} {old new : α}
    (hold : items[i]? = some old) (h : ∀ u, step u new = step u old) (u : Usage) :
    each step u (items.set i new) = each step u items := by
  induction items generalizing i u with
  | nil => rfl
  | cons item items ih =>
    cases i with
    | zero =>
      obtain rfl : item = old := by simpa using hold
      rw [List.set_cons_zero, each_cons, each_cons, h]
    | succ i =>
      rw [List.set_cons_succ, each_cons, each_cons, ih (by simpa using hold)]

theorem each_map {step : Usage → β → Outcome γ} {f : α → β} (u : Usage) (items : List α) :
    each step u (items.map f) = each (fun u item => step u (f item)) u items := by
  induction items generalizing u with
  | nil => rfl
  | cons item items ih => rw [List.map_cons, each_cons, each_cons, ih]

/-- A run over changed items, if a step changes its value for a changed item. -/
theorem each_map_comm {step : Usage → α → Outcome β} {step' : Usage → γ → Outcome δ} {f : α → γ}
    {g : β → δ} (h : ∀ u item, step' u (f item) = (step u item).map g) (u : Usage)
    (items : List α) : each step' u (items.map f) = (each step u items).map (List.map g) := by
  induction items generalizing u with
  | nil => rfl
  | cons item items ih =>
    rw [List.map_cons, each_cons, each_cons, h, ih]
    rfl

/-- The same for items that are changed according to their indices. -/
theorem each_mapIdx_comm {step : Usage → α → Outcome β} {step' : Usage → γ → Outcome δ}
    {f : Nat → α → γ} {g : Nat → β → δ}
    (h : ∀ u i item, step' u (f i item) = (step u item).map (g i)) (u : Usage) (items : List α) :
    each step' u (items.mapIdx f) = (each step u items).map (List.mapIdx g) := by
  induction items generalizing u f g with
  | nil => rfl
  | cons item items ih =>
    rw [List.mapIdx_cons, each_cons, each_cons, h, ih fun u i item => h u (i + 1) item]
    simp only [map, List.mapIdx_cons]

/-! ### Runs side by side -/

/-- The second outcome has the value that `g` makes of that of the first one, and the usages
of both are related. -/
structure Follows (R : Usage → Usage → Prop) (g : α → β) (o : Outcome α) (o' : Outcome β) :
    Prop where
  /-- The values correspond. -/
  value : o'.value = g o.value
  /-- The usages are related. -/
  usage : R o.usage o'.usage

/-- Two runs over the same items, if from related usages one step follows the other for each
of the items. -/
theorem Follows.each {R : Usage → Usage → Prop} {g : β → γ} {step : Usage → α → Outcome β}
    {step' : Usage → α → Outcome γ} {items : List α}
    (h : ∀ item ∈ items, ∀ u v, R u v → Follows R g (step u item) (step' v item)) {u v : Usage}
    (huv : R u v) : Follows R (List.map g) (each step u items) (each step' v items) := by
  induction items generalizing u v with
  | nil => exact ⟨rfl, huv⟩
  | cons item items ih =>
    obtain ⟨hitem, hitems⟩ := List.forall_mem_cons.mp h
    have hfirst := hitem u v huv
    have hrest := ih hitems hfirst.usage
    rw [each_cons, each_cons]
    refine ⟨?_, hrest.usage⟩
    rw [List.map_cons, hfirst.value, hrest.value]

end Outcome

/-! ### Stamps are no settings -/

@[simp] theorem Deployment.stamp_stamp (d : Deployment) (f g : Fingerprint) (i j : Nat) :
    (d.stamp f i).stamp g j = d.stamp g j := rfl

@[simp] theorem Deployment.stamp_inherit (d e : Deployment) (f : Fingerprint) (i : Nat) :
    (d.stamp f i).inherit e = (d.inherit e).stamp f i := rfl

@[simp] theorem Scope.fingerprint_stamp (scope : Scope) (d : Deployment) (f : Fingerprint)
    (i : Nat) : scope.fingerprint (d.stamp f i) = scope.fingerprint d := rfl

/-! ### The parts of a normalization -/

namespace Scope

variable (scope : Scope)

theorem value_each_normalizeInto (usage : Usage) (clusters : List Cluster) :
    (Outcome.each scope.normalizeInto usage clusters).value =
      clusters.map fun cluster => (scope.normalize cluster).value := by
  induction clusters generalizing usage with
  | nil => rfl
  | cons cluster clusters ih => rw [Outcome.each_cons, ih, List.map_cons]; rfl

theorem usage_each_normalizeInto (usage : Usage) (clusters : List Cluster) :
    (Outcome.each scope.normalizeInto usage clusters).usage =
      clusters.foldl (fun u cluster => u.sup (scope.normalize cluster).usage) usage := by
  induction clusters generalizing usage with
  | nil => rfl
  | cons cluster clusters ih => rw [Outcome.each_cons, ih, List.foldl_cons]; rfl

/-- The deployment of a cluster, with the defaults of the scope. -/
def clusterDeployment (cluster : Cluster) : Deployment :=
  Layered.inheritOption cluster.deployment scope.defaults

/-- The shards of a cluster before their replicas are resolved. -/
def expandedShards (cluster : Cluster) : List Shard :=
  (cluster.layout.expanded (scope.clusterDeployment cluster)).shards

@[simp] theorem shards_normalize (cluster : Cluster) :
    (scope.normalize cluster).value.layout.shards =
      (Outcome.each scope.resolveShard .empty (scope.expandedShards cluster)).value := rfl

@[simp] theorem usage_normalize (cluster : Cluster) :
    (scope.normalize cluster).usage =
      (Outcome.each scope.resolveShard .empty (scope.expandedShards cluster)).usage := rfl

end Scope

namespace Installation

/-- The installation as a scope, with the completed defaults. -/
def completedScope (x : Installation) : Scope := x.completeDefaults.scope

/-- The clusters of a normalized installation are those of the installation, each
normalized on its own. -/
theorem clusters_normalize (x : Installation) :
    x.normalize.value.clusters =
      x.clusters.map fun cluster => (x.completedScope.normalize cluster).value :=
  x.completedScope.value_each_normalizeInto .empty x.clusters

theorem usage_normalize (x : Installation) :
    x.normalize.usage =
      x.clusters.foldl (fun u cluster => u.sup (x.completedScope.normalize cluster).usage) .empty :=
  x.completedScope.usage_each_normalizeInto .empty x.clusters

end Installation

end ClusterTopology
