import ClusterTopology.Deployment

/-!
# Laws of inheritance

Settings are inherited along a chain of levels, and the first level that sets a
value decides.  Inheriting is associative, so the levels of a chain may be
resolved in any grouping, and a level that comes again has no effect, unless it is
the last one: an absent text and a present empty one are both open, and from a
chain of open values the last one stays.

## Main definitions

* `LawfulLayered` — values with the laws of inheritance.
* `Layered.Anticipates` — inheriting from one value before another makes no
  difference.
* `firstSet?`, `firstLabels?` — the first value of a chain that is set.

## Main results

* `foldr_inherit_option`, `foldr_inherit_labels` — the first set value of a chain is
  inherited.
* `Deployment.map_foldr_inherit` — a chain of deployments is resolved setting by
  setting.
* `Layered.Anticipates.inherit` — a level passes on what it has anticipated.
-/

namespace ClusterTopology

/-! ### The laws -/

/-- Values that inherit along chains of levels. -/
class LawfulLayered (α : Type) [Layered α] : Prop where
  /-- A value has nothing to inherit from itself. -/
  inherit_self : ∀ a : α, Layered.inherit a a = a
  /-- The levels of a chain may be grouped from either end. -/
  inherit_assoc : ∀ a b c : α,
    Layered.inherit (Layered.inherit a b) c = Layered.inherit a (Layered.inherit b c)
  /-- A level that comes again later in a chain has no effect there. -/
  inherit_again : ∀ a b c : α,
    Layered.inherit a (Layered.inherit b (Layered.inherit a c)) =
      Layered.inherit a (Layered.inherit b c)

export LawfulLayered (inherit_self inherit_assoc inherit_again)

instance {α : Type} [Setting α] : LawfulLayered (Option α) where
  inherit_self a := by
    rw [inherit_option, ite_self]
  inherit_assoc a b c := by
    simp only [inherit_option]
    by_cases ha : leavesOpen a = true <;> simp [ha]
  inherit_again a b c := by
    simp only [inherit_option]
    by_cases ha : leavesOpen a = true <;> simp [ha]

instance : LawfulLayered Labels where
  inherit_self a := by
    rw [inherit_labels, ite_self]
  inherit_assoc a b c := by
    simp only [inherit_labels]
    by_cases ha : a.isEmpty = true <;> simp [ha]
  inherit_again a b c := by
    simp only [inherit_labels]
    by_cases ha : a.isEmpty = true <;> simp [ha]

instance : LawfulLayered Zone where
  inherit_self a := Zone.ext (inherit_self a.matchLabels)
  inherit_assoc a b c := Zone.ext (inherit_assoc a.matchLabels b.matchLabels c.matchLabels)
  inherit_again a b c := Zone.ext (inherit_again a.matchLabels b.matchLabels c.matchLabels)

/-- Deployments inherit like their settings; of the stamps the first ones stay. -/
instance : LawfulLayered Deployment where
  inherit_self a := by
    refine Deployment.ext ?_ ?_ ?_ ?_ rfl rfl <;> exact inherit_self _
  inherit_assoc a b c := by
    refine Deployment.ext ?_ ?_ ?_ ?_ rfl rfl <;> exact inherit_assoc _ _ _
  inherit_again a b c := by
    refine Deployment.ext ?_ ?_ ?_ ?_ rfl rfl <;> exact inherit_again _ _ _

/-! ### The first set value -/

/-- The first value of a chain that is set. -/
def firstSet? {α : Type} [Setting α] (layers : List (Option α)) : Option α :=
  layers.findSome? fun setting => setting.filter (! Setting.isUnset ·)

/-- The first map of a chain that has labels. -/
def firstLabels? (layers : List Labels) : Option Labels := layers.find? (! ·.isEmpty)

/-- **The first set value of a chain is inherited**, and from a chain of open values
the value after it, set or not. -/
theorem foldr_inherit_option {α : Type} [Setting α] (layers : List (Option α)) (last : Option α) :
    layers.foldr Layered.inherit last = (firstSet? layers).or last := by
  induction layers with
  | nil => rfl
  | cons setting layers ih =>
    rw [List.foldr_cons, ih, inherit_option]
    cases setting with
    | none => rfl
    | some a =>
      -- a value that is present hides the rest of the chain only if it is set
      unfold firstSet?
      rw [List.findSome?_cons]
      cases ha : Setting.isUnset a <;> simp [leavesOpen, Option.filter, ha]

/-- The first map with labels is inherited as a whole, and from a chain of empty maps
the map after it. -/
theorem foldr_inherit_labels (layers : List Labels) (last : Labels) :
    layers.foldr Layered.inherit last = (firstLabels? layers).getD last := by
  induction layers with
  | nil => rfl
  | cons labels layers ih =>
    rw [List.foldr_cons, ih, inherit_labels]
    unfold firstLabels?
    rw [List.find?_cons]
    cases labels.isEmpty <;> rfl

theorem inherit_labels_empty (own : Labels) : Layered.inherit own SortedMap.empty = own := by
  rw [inherit_labels]
  split
  · next h => exact (SortedMap.isEmpty_iff.mp h).symm
  · rfl

theorem isUnset_of_firstSet? {α : Type} [Setting α] {layers : List (Option α)} {a : α}
    (h : firstSet? layers = some a) : Setting.isUnset a = false := by
  obtain ⟨setting, -, hsetting⟩ := List.exists_of_findSome?_eq_some h
  have := (Option.filter_eq_some_iff.mp hsetting).2
  simpa using this

/-- A setting of a chain of deployments is the setting of the chain. -/
theorem Deployment.map_foldr_inherit {α : Type} [Layered α] (setting : Deployment → α)
    (hsetting : ∀ own defaults : Deployment,
      setting (own.inherit defaults) = Layered.inherit (setting own) (setting defaults))
    (layers : List Deployment) (last : Deployment) :
    setting (layers.foldr Deployment.inherit last) =
      (layers.map setting).foldr Layered.inherit (setting last) := by
  induction layers with
  | nil => rfl
  | cons d layers ih => rw [List.foldr_cons, hsetting, ih, List.map_cons, List.foldr_cons]

/-- A setting of a chain of deployments, where that of the deployment after the chain is
inherited from a last value. -/
theorem Deployment.map_foldr_inherit_of_eq {α : Type} [Layered α] (setting : Deployment → α)
    (hsetting : ∀ own defaults : Deployment,
      setting (own.inherit defaults) = Layered.inherit (setting own) (setting defaults))
    (layers : List Deployment) (d e : Deployment) (last : α)
    (h : setting e = Layered.inherit (setting d) last) :
    setting (layers.foldr Deployment.inherit e) =
      ((layers ++ [d]).map setting).foldr Layered.inherit last := by
  rw [map_foldr_inherit setting hsetting, h, List.map_append, List.foldr_append]
  rfl

/-! ### Inheriting ahead of time -/

namespace Layered

variable {α : Type} [Layered α]

/-- Whoever inherits from `b` may inherit from `a` first: it makes no difference. -/
def Anticipates (a b : α) : Prop :=
  ∀ own : α, Layered.inherit (Layered.inherit own a) b = Layered.inherit own b

variable [LawfulLayered α]

theorem Anticipates.of_inherit_eq {a b : α} (h : Layered.inherit a b = b) : Anticipates a b := by
  intro own
  rw [inherit_assoc, h]

theorem Anticipates.refl (a : α) : Anticipates a a := of_inherit_eq (inherit_self a)

theorem anticipates_inherit (a b : α) : Anticipates a (Layered.inherit a b) := by
  apply Anticipates.of_inherit_eq
  rw [← inherit_assoc, inherit_self]

/-- **A level passes on what it has anticipated.** -/
theorem Anticipates.inherit {a b : α} (h : Anticipates a b) (own : α) :
    Anticipates (Layered.inherit own a) (Layered.inherit own b) := by
  intro r
  -- `own` comes twice in the chain; without its second time `a` stands right before `b`
  calc Layered.inherit (Layered.inherit r (Layered.inherit own a)) (Layered.inherit own b)
      = Layered.inherit r (Layered.inherit own (Layered.inherit a (Layered.inherit own b))) := by
        rw [inherit_assoc, inherit_assoc]
    _ = Layered.inherit r (Layered.inherit own (Layered.inherit a b)) := by rw [inherit_again]
    _ = Layered.inherit r (Layered.inherit own b) := by rw [← inherit_assoc own, h]

end Layered

end ClusterTopology
