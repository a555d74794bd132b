import ClusterTopology.Deployment
import ClusterTopology.Event

/-!
# Resolving deployments

The deployment of a replica inherits from that of its shard and is stamped.  The
index is the number of replicas with the same fingerprint that were resolved
before, which a usage keeps count of while it passes from replica to replica.

## Main definitions

* `Scope` — the installation that deployments are resolved within.
* `Outcome` — a value with the usage and the events on the way to it.
* `Outcome.each` — a step for each item of a list, with one usage.
* `Scope.resolveReplica`, `Scope.resolveShard` — the resolution of replicas.
-/

namespace ClusterTopology

/-! ### Outcomes -/

/-- A value with the usage after it was made and the events on the way to it. -/
@[ext] structure Outcome (α : Type) where
  /-- The value. -/
  value : α
  /-- The usage after it was made. -/
  usage : Usage
  /-- The events on the way to it. -/
  events : List Event
  deriving DecidableEq

namespace Outcome

/-- The outcome with another value. -/
def map {α β : Type} (f : α → β) (o : Outcome α) : Outcome β := ⟨f o.value, o.usage, o.events⟩

/-- A step for each item in order, from the usage that the step before it left. -/
def each {α β : Type} (step : Usage → α → Outcome β) : Usage → List α → Outcome (List β)
  | usage, [] => ⟨[], usage, []⟩
  | usage, item :: items =>
    let first := step usage item
    let rest := each step first.usage items
    ⟨first.value :: rest.value, rest.usage, first.events ++ rest.events⟩

@[simp] theorem value_map {α β : Type} (f : α → β) (o : Outcome α) :
    (o.map f).value = f o.value := rfl

@[simp] theorem usage_map {α β : Type} (f : α → β) (o : Outcome α) :
    (o.map f).usage = o.usage := rfl

@[simp] theorem events_map {α β : Type} (f : α → β) (o : Outcome α) :
    (o.map f).events = o.events := rfl

@[simp] theorem each_nil {α β : Type} (step : Usage → α → Outcome β) (usage : Usage) :
    each step usage [] = ⟨[], usage, []⟩ := rfl

theorem each_cons {α β : Type} (step : Usage → α → Outcome β) (usage : Usage) (item : α)
    (items : List α) :
    each step usage (item :: items) =
      ⟨(step usage item).value :: (each step (step usage item).usage items).value,
        (each step (step usage item).usage items).usage,
        (step usage item).events ++ (each step (step usage item).usage items).events⟩ := rfl

end Outcome

/-! ### Resolution -/

/-- The installation that deployments are resolved within. -/
@[ext] structure Scope where
  /-- The namespace of the installation. -/
  namespaceName : String
  /-- The name of the installation. -/
  name : String
  /-- The deployment that clusters take open settings from. -/
  defaults : Option Deployment := none
  deriving DecidableEq

/-- The deployment with its stamps. -/
def Deployment.stamp (d : Deployment) (f : Fingerprint) (index : Nat) : Deployment :=
  { d with fingerprint := some f, index := some index }

namespace Scope

/-- The fingerprint of a deployment within the installation. -/
def fingerprint (scope : Scope) (d : Deployment) : Fingerprint :=
  d.fingerprintIn scope.namespaceName scope.name

/-- The replica with its deployment inheriting from that of its shard, and stamped. -/
def resolveReplica (scope : Scope) (parent : Deployment) (usage : Usage) (replica : Replica) :
    Outcome Replica :=
  let resolved := replica.deployment.inherit parent
  let f := scope.fingerprint resolved
  let index := usage.get f
  ⟨⟨resolved.stamp f index⟩, usage.add f, [.resolvedReplica f index]⟩

/-- The shard with all its replicas resolved. -/
def resolveShard (scope : Scope) (usage : Usage) (shard : Shard) : Outcome Shard :=
  (Outcome.each (scope.resolveReplica shard.deployment) usage shard.replicas).map
    fun replicas => { shard with replicas }

end Scope

end ClusterTopology
