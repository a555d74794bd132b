import ClusterTopology.Installation

/-!
# The deployments of a value

An installation and its parts hold deployments at every level.  They are listed here, and
changed in place, for all of these types at once; what a type does besides holding
deployments has no part in it.

The change that matters on the wire is the loss of empty settings: a setting of a
deployment that is present and empty is as good as none, and is not written as a value of
its own.

## Main definitions

* `HasDeployments` — types whose values hold deployments.
* `Deployment.HasEmptySetting` — a setting is present and empty.
* `withoutEmpties` — a value without such settings, in all its deployments.

## Main results

* `withoutEmpties_eq_self_iff` — a value has none to lose exactly if no deployment has one.
-/

namespace ClusterTopology

/-! ### Types that hold deployments -/

/-- Types whose values hold deployments. -/
class HasDeployments (α : Type) where
  /-- The deployments of a value. -/
  deployments : α → List Deployment
  /-- The value with each of its deployments changed. -/
  mapDeployments : (Deployment → Deployment) → α → α
  /-- A value stays as it is exactly if each of its deployments does. -/
  mapDeployments_eq_self_iff : ∀ f a, mapDeployments f a = a ↔ ∀ d ∈ deployments a, f d = d

namespace HasDeployments

/-- Values that hold no deployment. -/
abbrev vacuous (α : Type) : HasDeployments α where
  deployments _ := []
  mapDeployments _ a := a
  mapDeployments_eq_self_iff f a := by
    constructor
    · intro _ d hd
      exact absurd hd List.not_mem_nil
    · intro _
      rfl

instance : HasDeployments Fingerprint := vacuous _

instance : HasDeployments Zone := vacuous _

instance : HasDeployments LayoutType := vacuous _

instance : HasDeployments ShardDefinition := vacuous _

instance : HasDeployments Deployment where
  deployments d := [d]
  mapDeployments f d := f d
  mapDeployments_eq_self_iff f d := by rw [List.forall_mem_singleton]

theorem map_eq_self_iff {α : Type} {f : α → α} {items : List α} :
    items.map f = items ↔ ∀ a ∈ items, f a = a := by
  induction items with
  | nil => simp
  | cons a items ih => rw [List.map_cons, List.cons.injEq, ih, List.forall_mem_cons]

instance {α : Type} [HasDeployments α] : HasDeployments (List α) where
  deployments items := items.flatMap deployments
  mapDeployments f items := items.map (mapDeployments f)
  mapDeployments_eq_self_iff f items := by
    rw [map_eq_self_iff, List.forall_mem_flatMap]
    exact forall₂_congr fun a _ => mapDeployments_eq_self_iff f a

instance {α : Type} [HasDeployments α] : HasDeployments (Option α) where
  deployments a? := deployments a?.toList
  mapDeployments f a? := a?.map (mapDeployments f)
  mapDeployments_eq_self_iff f a? := by
    rw [← mapDeployments_eq_self_iff]
    cases a? with
    | none => exact iff_of_true rfl rfl
    | some a => exact (Option.some.injEq _ _).to_iff.trans List.singleton_inj.symm

instance : HasDeployments Replica where
  deployments r := deployments r.deployment
  mapDeployments f r := { r with deployment := mapDeployments f r.deployment }
  mapDeployments_eq_self_iff f r := by
    rw [← mapDeployments_eq_self_iff, Replica.ext_iff]

instance : HasDeployments Shard where
  deployments s := deployments s.deployment ++ deployments s.replicas
  mapDeployments f s :=
    { s with
      deployment := mapDeployments f s.deployment
      replicas := mapDeployments f s.replicas }
  mapDeployments_eq_self_iff f s := by
    rw [List.forall_mem_append, ← mapDeployments_eq_self_iff, ← mapDeployments_eq_self_iff,
      Shard.ext_iff]
    simp only [true_and]

instance : HasDeployments Layout where
  deployments l := deployments l.shards
  mapDeployments f l := { l with shards := mapDeployments f l.shards }
  mapDeployments_eq_self_iff f l := by
    rw [← mapDeployments_eq_self_iff, Layout.ext_iff]
    simp only [true_and]

instance : HasDeployments Cluster where
  deployments c := deployments c.layout ++ deployments c.deployment
  mapDeployments f c :=
    { c with
      layout := mapDeployments f c.layout
      deployment := mapDeployments f c.deployment }
  mapDeployments_eq_self_iff f c := by
    rw [List.forall_mem_append, ← mapDeployments_eq_self_iff, ← mapDeployments_eq_self_iff,
      Cluster.ext_iff]
    simp only [true_and]

instance : HasDeployments Configuration where
  deployments c := deployments c.clusters
  mapDeployments f c := { c with clusters := mapDeployments f c.clusters }
  mapDeployments_eq_self_iff f c := by
    rw [← mapDeployments_eq_self_iff, Configuration.ext_iff]

instance : HasDeployments Defaults where
  deployments d := deployments d.deployment
  mapDeployments f d := { d with deployment := mapDeployments f d.deployment }
  mapDeployments_eq_self_iff f d := by
    rw [← mapDeployments_eq_self_iff, Defaults.ext_iff]
    simp only [true_and]

instance : HasDeployments Spec where
  deployments s := deployments s.defaults ++ deployments s.configuration
  mapDeployments f s :=
    { s with
      defaults := mapDeployments f s.defaults
      configuration := mapDeployments f s.configuration }
  mapDeployments_eq_self_iff f s := by
    rw [List.forall_mem_append, ← mapDeployments_eq_self_iff, ← mapDeployments_eq_self_iff,
      Spec.ext_iff]

instance : HasDeployments Installation where
  deployments x := deployments x.spec
  mapDeployments f x := { x with spec := mapDeployments f x.spec }
  mapDeployments_eq_self_iff f x := by
    rw [← mapDeployments_eq_self_iff, Installation.ext_iff]
    simp only [true_and]

end HasDeployments

/-! ### Empty settings -/

/-- The setting, absent if it is present and empty. -/
def withoutEmpty (setting : Option String) : Option String :=
  if setting = some "" then none else setting

theorem withoutEmpty_eq_self_iff {setting : Option String} :
    withoutEmpty setting = setting ↔ setting ≠ some "" := by
  unfold withoutEmpty
  split
  · next h =>
    rw [h]
    simp
  · next h => simp [h]

theorem filter_not_isEmpty (setting : Option String) :
    (setting.filter fun s => ! s.isEmpty) = withoutEmpty setting := by
  cases setting with
  | none => rfl
  | some s =>
    unfold withoutEmpty
    by_cases h : s = ""
    · subst h
      rfl
    · simp [h]

@[simp] theorem withoutEmpty_withoutEmpty (setting : Option String) :
    withoutEmpty (withoutEmpty setting) = withoutEmpty setting := by
  rw [withoutEmpty_eq_self_iff]
  unfold withoutEmpty
  split
  · simp
  · next h => exact h

namespace Deployment

/-- The deployment with every empty setting absent. -/
def withoutEmpties (d : Deployment) : Deployment :=
  { d with
    podTemplate := withoutEmpty d.podTemplate
    volumeClaimTemplate := withoutEmpty d.volumeClaimTemplate
    scenario := withoutEmpty d.scenario }

/-- Some setting of the deployment is present and empty. -/
def HasEmptySetting (d : Deployment) : Prop :=
  d.podTemplate = some "" ∨ d.volumeClaimTemplate = some "" ∨ d.scenario = some ""

theorem withoutEmpties_eq_self_iff {d : Deployment} :
    d.withoutEmpties = d ↔ ¬ d.HasEmptySetting := by
  unfold withoutEmpties HasEmptySetting
  rw [Deployment.ext_iff]
  simp only [withoutEmpty_eq_self_iff, not_or, and_true]

end Deployment

section

variable {α : Type} [HasDeployments α]

/-- The value with every empty setting absent, in each of its deployments. -/
def withoutEmpties (a : α) : α := HasDeployments.mapDeployments Deployment.withoutEmpties a

/-- A value has no empty setting to lose exactly if no deployment in it has one. -/
theorem withoutEmpties_eq_self_iff {a : α} :
    withoutEmpties a = a ↔ ∀ d ∈ HasDeployments.deployments a, ¬ d.HasEmptySetting := by
  unfold withoutEmpties
  rw [HasDeployments.mapDeployments_eq_self_iff]
  exact forall₂_congr fun d _ => Deployment.withoutEmpties_eq_self_iff

end

end ClusterTopology
