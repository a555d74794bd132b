import ClusterTopology.Proofs.Layers

/-!
# Layers applied one by one

A value may take its layers one by one: each is applied as defaults to what the layers before
it have left.  The first value that is set stays, be it the value at the beginning or that of
a layer.  As long as none is set, each layer replaces what is there, so an absent text may
give way to an empty one and the other way round.  Inheriting is associative, so that layers
which follow one another may be merged first and applied as one.

## Main definitions

* `LayerStep` — a layer, or a source that may have none.
* `Layered.applyAll` — a value after a list of steps.
* `firstOrLast` — the first value that is set, or the last one.
* `Deployment.withFirstSettings` — the same for each setting of a deployment.
* `TakesFirst` — what layers make of a value, and that their grouping does not matter.

## Main results

* `foldl_inherit_eq_firstOrLast` — a value that is inherited as a whole ends as the first one
  that is set.
* `Layered.applyAll_merged` — layers that follow one another may be merged first.
* `takesFirst_layered` — **the first layer that sets a value decides.**
-/

namespace ClusterTopology

/-! ### Steps -/

/-- A layer that is applied as defaults.  A step gives the value that comes out, so it is the
same whether this replaces the old value or is returned beside it. -/
inductive LayerStep (α : Type)
  /-- A layer that is there. -/
  | layer (defaults : α)
  /-- The layer of a source that may have none. -/
  | source (defaults : Option α)

namespace LayerStep

variable {α : Type}

/-- The layer of a step, if there is one. -/
def defaults? : LayerStep α → Option α
  | layer defaults => some defaults
  | source defaults => defaults

/-- A value after a step. -/
def apply [Layered α] (own : α) : LayerStep α → α
  | layer defaults => Layered.inherit own defaults
  | source defaults => Layered.inheritOption own defaults

theorem apply_eq_elim [Layered α] (own : α) (step : LayerStep α) :
    step.apply own = step.defaults?.elim own (Layered.inherit own) := by
  cases step with
  | layer defaults => rfl
  | source defaults => cases defaults <;> rfl

theorem inherit_apply [Layered α] [LawfulLayered α] (own defaults : α) (step : LayerStep α) :
    Layered.inherit own (step.apply defaults) = step.apply (Layered.inherit own defaults) := by
  rw [apply_eq_elim, apply_eq_elim]
  cases step.defaults? with
  | none => rfl
  | some further => exact (inherit_assoc own defaults further).symm

end LayerStep

namespace Layered

variable {α : Type} [Layered α]

/-- A value after a list of steps. -/
def applyAll (own : α) (steps : List (LayerStep α)) : α :=
  steps.foldl (fun own step => step.apply own) own

@[simp] theorem applyAll_nil (own : α) : applyAll own [] = own := rfl

@[simp] theorem applyAll_cons (own : α) (step : LayerStep α) (steps : List (LayerStep α)) :
    applyAll own (step :: steps) = applyAll (step.apply own) steps := rfl

theorem applyAll_append (own : α) (before after : List (LayerStep α)) :
    applyAll own (before ++ after) = applyAll (applyAll own before) after :=
  List.foldl_append

/-- However layers are applied, only those that are there count. -/
theorem applyAll_eq_foldl (own : α) (steps : List (LayerStep α)) :
    applyAll own steps = (steps.filterMap LayerStep.defaults?).foldl Layered.inherit own := by
  induction steps generalizing own with
  | nil => rfl
  | cons step steps ih =>
    rw [applyAll_cons, ih, LayerStep.apply_eq_elim, List.filterMap_cons]
    cases step.defaults? <;> rfl

variable [LawfulLayered α]

theorem inherit_applyAll (own defaults : α) (steps : List (LayerStep α)) :
    Layered.inherit own (applyAll defaults steps) =
      applyAll (Layered.inherit own defaults) steps := by
  induction steps generalizing defaults with
  | nil => rfl
  | cons step steps ih => rw [applyAll_cons, ih, LayerStep.inherit_apply, applyAll_cons]

/-- **Layers that follow one another may be merged first**, and applied as one. -/
theorem applyAll_merged (own defaults : α) (before merged after : List (LayerStep α)) :
    applyAll own (before ++ .layer (applyAll defaults merged) :: after) =
      applyAll own (before ++ .layer defaults :: merged ++ after) := by
  have hmerged : ∀ a : α, LayerStep.apply a (.layer (applyAll defaults merged)) =
      applyAll a (.layer defaults :: merged) := by
    intro a
    exact inherit_applyAll a defaults merged
  rw [applyAll_append, applyAll_cons, hmerged, applyAll_append, applyAll_append]

end Layered

/-! ### The first value that is set -/

section FirstOrLast

variable {α : Type}

/-- The first of a value and the layers after it that is set, and the last one if none is. -/
def firstOrLast (isSet : α → Bool) (own : α) (layers : List α) : α :=
  ((own :: layers).find? isSet).getD (layers.getLastD own)

theorem firstOrLast_of_set {isSet : α → Bool} {own : α} (h : isSet own = true)
    (layers : List α) : firstOrLast isSet own layers = own := by
  unfold firstOrLast
  rw [List.find?_cons_of_pos h, Option.getD_some]

theorem firstOrLast_cons_of_open {isSet : α → Bool} {own : α} (h : ¬ isSet own = true)
    (layer : α) (layers : List α) :
    firstOrLast isSet own (layer :: layers) = firstOrLast isSet layer layers := by
  unfold firstOrLast
  rw [List.find?_cons_of_neg h, List.getLastD_cons]

/-- **A value that is inherited as a whole ends as the first one that is set**, or as that of
the last layer. -/
theorem foldl_inherit_eq_firstOrLast [Layered α] {isSet : α → Bool}
    (hinherit : ∀ own defaults : α,
      Layered.inherit own defaults = if isSet own then own else defaults)
    (own : α) (layers : List α) :
    layers.foldl Layered.inherit own = firstOrLast isSet own layers := by
  induction layers generalizing own with
  | nil => cases h : isSet own <;> simp [firstOrLast, h]
  | cons layer layers ih =>
    rw [List.foldl_cons, ih, hinherit]
    by_cases h : isSet own = true
    · rw [if_pos h, firstOrLast_of_set h, firstOrLast_of_set h]
    · rw [if_neg h, firstOrLast_cons_of_open h]

end FirstOrLast

/-- Whether a text is set: it is there and not empty. -/
def isSetText (text : Option String) : Bool := text.any fun s => ! s.isEmpty

/-- Whether a map sets labels: it has some. -/
def isSetLabels (labels : Labels) : Bool := ! labels.isEmpty

theorem inherit_text (own defaults : Option String) :
    Layered.inherit own defaults = if isSetText own then own else defaults := by
  rw [inherit_option]
  cases own with
  | none => rfl
  | some s => cases h : s.isEmpty <;> simp [isSetText, h]

/-- Every number that is there is set, zero included. -/
theorem inherit_uint32 (own defaults : Option UInt32) :
    Layered.inherit own defaults = if own.isSome then own else defaults := by
  cases own <;> rfl

theorem inherit_eq_ite_isSetLabels (own defaults : Labels) :
    Layered.inherit own defaults = if isSetLabels own then own else defaults := by
  rw [inherit_labels, isSetLabels]
  cases own.isEmpty <;> rfl

theorem Zone.matchLabels_foldl_inherit (own : Zone) (layers : List Zone) :
    (layers.foldl Layered.inherit own).matchLabels =
      firstOrLast isSetLabels own.matchLabels (layers.map (·.matchLabels)) := by
  rw [← foldl_inherit_eq_firstOrLast inherit_eq_ite_isSetLabels, List.foldl_map]
  exact (List.foldl_hom Zone.matchLabels fun _ _ => rfl).symm

/-! ### Deployments -/

namespace Deployment

/-- The deployment with the first of each setting, its own or that of a layer, and with its
own stamps. -/
def withFirstSettings (own : Deployment) (layers : List Deployment) : Deployment where
  podTemplate := firstOrLast isSetText own.podTemplate (layers.map (·.podTemplate))
  volumeClaimTemplate :=
    firstOrLast isSetText own.volumeClaimTemplate (layers.map (·.volumeClaimTemplate))
  scenario := firstOrLast isSetText own.scenario (layers.map (·.scenario))
  zone := ⟨firstOrLast isSetLabels own.zone.matchLabels (layers.map (·.zone.matchLabels))⟩
  fingerprint := own.fingerprint
  index := own.index

/-- A setting of a deployment under layers is the setting under those of the layers. -/
theorem map_foldl_inherit {α : Type} [Layered α] (setting : Deployment → α)
    (hsetting : ∀ own defaults : Deployment,
      setting (Layered.inherit own defaults) = Layered.inherit (setting own) (setting defaults))
    (own : Deployment) (layers : List Deployment) :
    setting (layers.foldl Layered.inherit own) =
      (layers.map setting).foldl Layered.inherit (setting own) := by
  rw [List.foldl_map]
  exact (List.foldl_hom setting fun own defaults => (hsetting own defaults).symm).symm

/-- No layer takes part in a stamp. -/
theorem stamp_foldl_inherit {β : Type} (stamp : Deployment → β)
    (hstamp : ∀ own defaults : Deployment, stamp (Layered.inherit own defaults) = stamp own)
    (own : Deployment) (layers : List Deployment) :
    stamp (layers.foldl Layered.inherit own) = stamp own := by
  induction layers generalizing own with
  | nil => rfl
  | cons layer layers ih => rw [List.foldl_cons, ih, hstamp]

theorem foldl_inherit_eq_withFirstSettings (own : Deployment) (layers : List Deployment) :
    layers.foldl Layered.inherit own = own.withFirstSettings layers := by
  have htext : ∀ setting : Deployment → Option String,
      (∀ own defaults : Deployment, setting (Layered.inherit own defaults) =
        Layered.inherit (setting own) (setting defaults)) →
      setting (layers.foldl Layered.inherit own) =
        firstOrLast isSetText (setting own) (layers.map setting) := by
    intro setting hsetting
    rw [map_foldl_inherit setting hsetting, foldl_inherit_eq_firstOrLast inherit_text]
  have hzone : (layers.foldl Layered.inherit own).zone.matchLabels =
      firstOrLast isSetLabels own.zone.matchLabels (layers.map (·.zone.matchLabels)) := by
    rw [map_foldl_inherit (·.zone) fun _ _ => rfl, Zone.matchLabels_foldl_inherit, List.map_map]
    rfl
  apply Deployment.ext
  case podTemplate => exact htext (·.podTemplate) fun _ _ => rfl
  case volumeClaimTemplate => exact htext (·.volumeClaimTemplate) fun _ _ => rfl
  case scenario => exact htext (·.scenario) fun _ _ => rfl
  case zone => exact Zone.ext hzone
  case fingerprint => exact stamp_foldl_inherit (·.fingerprint) (fun _ _ => rfl) own layers
  case index => exact stamp_foldl_inherit (·.index) (fun _ _ => rfl) own layers

end Deployment

/-! ### Every kind of value -/

/-- Layers, applied one by one, make of a value what `result` says, and it makes no difference
how they are grouped. -/
structure TakesFirst (α : Type) [Layered α] (result : α → List α → α) : Prop where
  /-- The value under layers, of which only those that are there count. -/
  applied : ∀ (own : α) (steps : List (LayerStep α)),
    Layered.applyAll own steps = result own (steps.filterMap LayerStep.defaults?)
  /-- A value takes nothing over from itself. -/
  idempotent : ∀ a : α, Layered.inherit a a = a
  /-- A layer may be merged with the one before it or with the one after it. -/
  associative : ∀ a b c : α,
    Layered.inherit (Layered.inherit a b) c = Layered.inherit a (Layered.inherit b c)
  /-- Layers that follow one another may be merged first. -/
  merged : ∀ (own defaults : α) (before merged after : List (LayerStep α)),
    Layered.applyAll own (before ++ .layer (Layered.applyAll defaults merged) :: after) =
      Layered.applyAll own (before ++ .layer defaults :: merged ++ after)

theorem TakesFirst.of_foldl_eq {α : Type} [Layered α] [LawfulLayered α]
    {result : α → List α → α}
    (h : ∀ (own : α) (layers : List α), layers.foldl Layered.inherit own = result own layers) :
    TakesFirst α result where
  applied own steps := (Layered.applyAll_eq_foldl own steps).trans (h own _)
  idempotent := inherit_self
  associative := inherit_assoc
  merged := Layered.applyAll_merged

/-- **The first layer that sets a value decides**, whether layers are applied one by one or
merged first.  A text is set unless it is absent or empty, a number if it is there at all, and
labels are taken as a whole from the first map that has some.  Where nothing is set, the last
layer stays.  A deployment takes each of its settings by itself and keeps its own stamps. -/
theorem takesFirst_layered :
    TakesFirst (Option String) (firstOrLast isSetText) ∧
      TakesFirst (Option UInt32) (firstOrLast Option.isSome) ∧
      TakesFirst Labels (firstOrLast isSetLabels) ∧
      TakesFirst Zone (fun own layers =>
        ⟨firstOrLast isSetLabels own.matchLabels (layers.map (·.matchLabels))⟩) ∧
      TakesFirst Deployment Deployment.withFirstSettings := by
  refine ⟨?text, ?number, ?labels, ?zone, ?deployment⟩
  case text => exact .of_foldl_eq (foldl_inherit_eq_firstOrLast inherit_text)
  case number => exact .of_foldl_eq (foldl_inherit_eq_firstOrLast inherit_uint32)
  case labels => exact .of_foldl_eq (foldl_inherit_eq_firstOrLast inherit_eq_ite_isSetLabels)
  case zone =>
    exact .of_foldl_eq fun own layers => Zone.ext (own.matchLabels_foldl_inherit layers)
  case deployment => exact .of_foldl_eq Deployment.foldl_inherit_eq_withFirstSettings

/-- An empty text gives way to an absent one, and this to the first text that is set. -/
example : Layered.applyAll (some "") [.layer none, .source none, .source (some (some "a")),
    .layer (some "b")] = some "a" := by
  decide

end ClusterTopology
