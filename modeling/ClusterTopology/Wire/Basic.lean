import ClusterTopology.Json.Basic
import ClusterTopology.Layering

/-!
# Values on the wire

Values are read from JSON and written to it.  A value that cannot be read has one
fault, the first that reading meets.

## Main definitions

* `Fault` — why a value cannot be read.
* `EmptySettings` — how an empty setting of a deployment is read.
* `Wire` — types that are read from JSON and written to it.
* `readVariant` — reading one of several named variants.
-/

namespace ClusterTopology

/-! ### Faults -/

/-- Why a value cannot be read. -/
inductive Fault
  /-- The value has the wrong JSON type. -/
  | invalidType
  /-- A number is out of range, or a variant is not given by a single name. -/
  | invalidValue
  /-- An array has too few or too many elements for a record. -/
  | invalidLength
  /-- A variant has an unknown name. -/
  | unknownVariant
  /-- A member of a record is missing. -/
  | missingField
  /-- A flag has none of the types that flags have. -/
  | noMatchingVariant
  deriving DecidableEq, Repr

/-- The name of a fault. -/
def Fault.name : Fault → String
  | invalidType => "InvalidType"
  | invalidValue => "InvalidValue"
  | invalidLength => "InvalidLength"
  | unknownVariant => "UnknownVariant"
  | missingField => "MissingField"
  | noMatchingVariant => "NoMatchingVariant"

/-- How an empty setting of a deployment is read. -/
inductive EmptySettings
  /-- As an absent one. -/
  | dropped
  /-- As it is. -/
  | kept
  deriving DecidableEq, Repr

/-- Types that are read from JSON and written to it. -/
class Wire (α : Type) where
  /-- The value of a JSON value. -/
  read : EmptySettings → Json → Except Fault α
  /-- The JSON value of a value. -/
  write : α → Json

/-- The value of a JSON value, empty settings being as good as absent ones. -/
def Wire.decode {α : Type} [Wire α] (j : Json) : Except Fault α := Wire.read .dropped j

/-! ### Texts and numbers -/

instance : Wire String where
  read _
    | .str s => .ok s
    | _ => .error .invalidType
  write := .str

instance : Wire Nat where
  read _
    | .int n => if n < 0 then .error .invalidValue else .ok n.toNat
    | _ => .error .invalidType
  write n := .int n

instance : Wire UInt32 where
  read _
    | .int n =>
      if n < 0 ∨ 0x100000000 ≤ n then .error .invalidValue
      else .ok (UInt32.ofNat n.toNat)
    | _ => .error .invalidType
  write n := .int n.toNat

instance : Wire Int64 where
  read _
    | .int n =>
      if n < Int64.minValue.toInt ∨ Int64.maxValue.toInt < n then .error .invalidValue
      else .ok (Int64.ofInt n)
    | _ => .error .invalidType
  write n := .int n.toInt

/-- A value of a type that is not looked into is read and written as it stands. -/
instance : Wire Json.Present where
  read _ j := if h : j = .null then .error .invalidType else .ok ⟨j, h⟩
  write v := v.value

/-! ### Optional values, lists and labels -/

/-- A null stands for an absent value. -/
instance {α : Type} [Wire α] : Wire (Option α) where
  read empties
    | .null => .ok none
    | j => (Wire.read empties j).map some
  write
    | none => .null
    | some a => Wire.write a

instance {α : Type} [Wire α] : Wire (List α) where
  read empties
    | .arr elements => elements.mapM (Wire.read empties)
    | _ => .error .invalidType
  write items := .arr (items.map Wire.write)

instance : Wire Labels where
  read empties
    | .obj members =>
      (members.mapM fun m => (Wire.read empties m.2).map (m.1, ·)).map SortedMap.ofList
    | _ => .error .invalidType
  write labels := .obj (labels.toList.map fun label => (label.1, .str label.2))

/-! ### Variants -/

/-- The variant that a JSON value names, given what each name stands for.  A variant
is named by a string, or by the only member of an object, whose value is null. -/
def readVariant {α : Type} (variant? : String → Option α) : Json → Except Fault α
  | .str name => (variant? name).elim (.error .unknownVariant) .ok
  | .obj [(name, contents)] =>
    match variant? name, contents with
    | none, _ => .error .unknownVariant
    | some a, .null => .ok a
    | some _, _ => .error .invalidType
  | .obj _ => .error .invalidValue
  | _ => .error .invalidType

end ClusterTopology
