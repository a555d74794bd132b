import ClusterTopology.SortedMap

/-!
# Layers of settings

Settings are given at several levels, and a level takes from the one above it
what it leaves open.  A setting that is present may still leave its value open,
as an empty name does; a map of labels is taken as a whole or not at all.

## Main definitions

* `Setting` — values of which some count as not set.
* `Layered` — values that inherit what they leave open.
* `Layered.inheritOption` — the same, from defaults that may be missing.
* `Labels` — maps of labels.
-/

namespace ClusterTopology

/-- Values of which some count as not set. -/
class Setting (α : Type) where
  /-- Whether a value that is present still counts as not set. -/
  isUnset : α → Bool := fun _ => false

/-- Values that inherit what they leave open. -/
class Layered (α : Type) where
  /-- The value `own`, and where it leaves something open, `defaults`. -/
  inherit (own defaults : α) : α

/-- The value `own`, and where it leaves something open, `defaults` if there are any. -/
def Layered.inheritOption {α : Type} [Layered α] (own : α) : Option α → α
  | none => own
  | some defaults => Layered.inherit own defaults

@[simp] theorem Layered.inheritOption_none {α : Type} [Layered α] (own : α) :
    Layered.inheritOption own none = own := rfl

@[simp] theorem Layered.inheritOption_some {α : Type} [Layered α] (own defaults : α) :
    Layered.inheritOption own (some defaults) = Layered.inherit own defaults := rfl

/-! ### Optional settings -/

/-- An empty text is as good as none. -/
instance : Setting String where
  isUnset := String.isEmpty

/-- Every number is a value, zero included. -/
instance : Setting UInt32 where

/-- Whether an optional setting leaves its value open: it is absent, or present and
not set. -/
def leavesOpen {α : Type} [Setting α] (setting : Option α) : Bool := setting.all Setting.isUnset

/-- An open setting becomes the default, even if that is open too. -/
instance {α : Type} [Setting α] : Layered (Option α) where
  inherit own defaults := if leavesOpen own then defaults else own

theorem inherit_option {α : Type} [Setting α] (own defaults : Option α) :
    Layered.inherit own defaults = if leavesOpen own then defaults else own := rfl

@[simp] theorem leavesOpen_none {α : Type} [Setting α] : leavesOpen (none : Option α) = true := rfl

@[simp] theorem leavesOpen_some_string (s : String) : leavesOpen (some s) = s.isEmpty := rfl

@[simp] theorem leavesOpen_some_uint32 (n : UInt32) : leavesOpen (some n) = false := rfl

/-! ### Labels -/

/-- A map of labels. -/
abbrev Labels := SortedMap String String

/-- Labels are inherited as a whole, and only where there are none. -/
instance : Layered Labels where
  inherit own defaults := if own.isEmpty then defaults else own

theorem inherit_labels (own defaults : Labels) :
    Layered.inherit own defaults = if own.isEmpty then defaults else own := rfl

end ClusterTopology
