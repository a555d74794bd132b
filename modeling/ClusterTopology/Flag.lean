/-!
# Flags

Flags are given as booleans, integers or texts.  Each flag reads all of these,
and is written in one form that it reads back.

## Main definitions

* `FlagLiteral` — a flag as it is given.
* `Flag` — types with two values that are given as flags.
* `ReplicasUseFqdn`, `InternalReplication` — the two flags of an installation.

## Main results

* `ReplicasUseFqdn.ofLiteral_toLiteral`, `InternalReplication.ofLiteral_toLiteral` —
  a flag is read back from its written form.
-/

namespace ClusterTopology

/-- A flag as it is given. -/
inductive FlagLiteral
  /-- A boolean. -/
  | bool (b : Bool)
  /-- An integer. -/
  | int (n : Int64)
  /-- A text. -/
  | text (s : String)
  deriving DecidableEq

/-- Types with two values that are given as flags. -/
class Flag (α : Type) where
  /-- The value that a flag stands for. -/
  ofLiteral : FlagLiteral → α
  /-- The written form of a value. -/
  toLiteral : α → FlagLiteral
  /-- The text of a value. -/
  text : α → String
  /-- The value of a flag that is not given. -/
  absent : α
  /-- A value is read back from its written form. -/
  ofLiteral_toLiteral : ∀ a, ofLiteral (toLiteral a) = a

/-- Whether replicas address each other by their fully qualified domain names. -/
inductive ReplicasUseFqdn
  /-- They do. -/
  | enabled
  /-- They do not. -/
  | disabled
  deriving DecidableEq, Repr

/-- Whether a shard leaves replication to its tables. -/
inductive InternalReplication
  /-- It does. -/
  | enabled
  /-- It does not. -/
  | disabled
  deriving DecidableEq, Repr

namespace ReplicasUseFqdn

/-- Only a one turns the flag on. -/
def ofLiteral : FlagLiteral → ReplicasUseFqdn
  | .int n => if n = 1 then enabled else disabled
  | .text s => if s = "1" then enabled else disabled
  | .bool _ => disabled

/-- The flag is written as an integer. -/
def toLiteral : ReplicasUseFqdn → FlagLiteral
  | enabled => .int 1
  | disabled => .int 0

/-- The text of the flag. -/
def text : ReplicasUseFqdn → String
  | enabled => "1"
  | disabled => "0"

@[simp] theorem ofLiteral_toLiteral (flag : ReplicasUseFqdn) :
    ofLiteral flag.toLiteral = flag := by
  cases flag <;> rfl

/-- The flag is off unless it is given. -/
instance : Flag ReplicasUseFqdn := ⟨ofLiteral, toLiteral, text, disabled, ofLiteral_toLiteral⟩

end ReplicasUseFqdn

namespace InternalReplication

/-- Only `false`, as a boolean or a text, and the text `Disabled` turn the flag off. -/
def ofLiteral : FlagLiteral → InternalReplication
  | .bool b => if b then enabled else disabled
  | .text s => if s = "Disabled" ∨ s = "false" then disabled else enabled
  | .int _ => enabled

/-- The text of the flag. -/
def text : InternalReplication → String
  | enabled => "true"
  | disabled => "false"

/-- The flag is written as a text. -/
def toLiteral (flag : InternalReplication) : FlagLiteral := .text flag.text

@[simp] theorem ofLiteral_toLiteral (flag : InternalReplication) :
    ofLiteral flag.toLiteral = flag := by
  cases flag <;> decide

/-- The flag is on unless it is given. -/
instance : Flag InternalReplication := ⟨ofLiteral, toLiteral, text, enabled, ofLiteral_toLiteral⟩

end InternalReplication

end ClusterTopology
