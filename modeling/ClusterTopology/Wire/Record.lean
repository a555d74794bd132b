import ClusterTopology.Wire.Basic

/-!
# Records on the wire

A record is written as an object with a member for each field.  It is read from
such an object, whatever the order of its members and whatever other members it
has, and also from an array of the values of its fields in their order, of which
the last ones may be left out.  Both readers and the writer follow from one
description of the fields.

A description is put together field by field: `Record ρ α` describes those fields
of records of type `ρ` from which values of type `α` are read, and a constructor
is applied to as many of them as it has arguments.

## Main definitions

* `Field` — a field: its name, what its absence means, how it is read and written.
* `Record` — a description of fields.
* `Record.read`, `Record.write` — the record of a JSON value, and the JSON value
  of a record.
-/

namespace ClusterTopology

/-! ### Fields -/

/-- A field of a record. -/
structure Field (α : Type) where
  /-- The name of the field. -/
  name : String
  /-- What the absence of the field stands for, unless the field is required. -/
  absent : Option α
  /-- The value of a JSON value. -/
  read : EmptySettings → Json → Except Fault α
  /-- The JSON value of a value, unless the field is left out for it. -/
  write : α → Option Json

namespace Field

/-- A field that must be there. -/
def required {α : Type} [Wire α] (name : String) : Field α where
  name
  absent := none
  read := Wire.read
  write a := some (Wire.write a)

/-- A field that stands for `d` if it is absent, and that is always written. -/
def defaulted {α : Type} [Wire α] (name : String) (d : α) : Field α where
  name
  absent := some d
  read := Wire.read
  write a := some (Wire.write a)

/-- A field that may be absent or null, and that is then not written. -/
def optional {α : Type} [Wire α] (name : String) : Field (Option α) where
  name
  absent := some none
  read := Wire.read
  write := Option.map Wire.write

/-- A setting of a deployment, where an empty text may be as good as none. -/
def setting (name : String) : Field (Option String) where
  name
  absent := some none
  read empties j := (Wire.read empties j).map fun setting =>
    match empties with
    | .dropped => setting.filter (! ·.isEmpty)
    | .kept => setting
  write := Option.map Wire.write

end Field

/-! ### Descriptions -/

/-- What is wrong with a field of a record. -/
inductive FieldFault
  /-- It is required and absent. -/
  | missing
  /-- It cannot be read. -/
  | unreadable (fault : Fault)
  deriving DecidableEq

/-- A description of fields of records of type `ρ`, from which a value of type `α`
is read. -/
structure Record (ρ α : Type) where
  /-- The names of the fields in their order. -/
  names : List String
  /-- The value, given the values of the fields by name, or what is wrong with the
  fields in their order. -/
  readFields : EmptySettings → (String → Option Json) → Except (List (String × FieldFault)) α
  /-- The fields of a record with their values, except those that are left out. -/
  writeFields : ρ → List (String × Option Json)

namespace Record

variable {ρ α β : Type}

/-- One field, and where a record has its value. -/
def field (f : Field α) (get : ρ → α) : Record ρ α where
  names := [f.name]
  readFields empties values :=
    match values f.name with
    | some j => (f.read empties j).mapError fun fault => [(f.name, .unreadable fault)]
    | none => f.absent.elim (.error [(f.name, .missing)]) .ok
  writeFields r := [(f.name, f.write (get r))]

/-- A member that is written with every record, and that is not read. -/
def constant (name : String) (j : Json) : Record ρ Unit where
  names := []
  readFields _ _ := .ok ()
  writeFields _ := [(name, some j)]

/-- No fields. -/
protected def pure (a : α) : Record ρ α where
  names := []
  readFields _ _ := .ok a
  writeFields _ := []

/-- The fields of both descriptions; faults are collected from both. -/
protected def seq (f : Record ρ (α → β)) (x : Record ρ α) : Record ρ β where
  names := f.names ++ x.names
  readFields empties values :=
    match f.readFields empties values, x.readFields empties values with
    | .ok g, .ok a => .ok (g a)
    | .ok _, .error faults => .error faults
    | .error faults, .ok _ => .error faults
    | .error faults, .error faults' => .error (faults ++ faults')
  writeFields r := f.writeFields r ++ x.writeFields r

instance : Applicative (Record ρ) where
  pure := Record.pure
  seq f x := Record.seq f (x ())

@[simp] theorem writeFields_field (f : Field α) (get : ρ → α) (r : ρ) :
    (field f get).writeFields r = [(f.name, f.write (get r))] := rfl

@[simp] theorem writeFields_map (g : α → β) (x : Record ρ α) (r : ρ) :
    (g <$> x).writeFields r = x.writeFields r := rfl

@[simp] theorem writeFields_seq (f : Record ρ (α → β)) (x : Record ρ α) (r : ρ) :
    (f <*> x).writeFields r = f.writeFields r ++ x.writeFields r := rfl

/-! ### Objects and arrays -/

/-- The fields that cannot be read, with their faults. -/
def unreadable (faults : List (String × FieldFault)) : List (String × Fault) :=
  faults.filterMap fun
    | (_, .missing) => none
    | (name, .unreadable fault) => some (name, fault)

/-- The fault of an object: members are read in the order of their names, and it
shows last that one is missing. -/
def objectFault (faults : List (String × FieldFault)) : Fault :=
  match (SortedMap.ofList (unreadable faults)).toList with
  | [] => .missingField
  | (_, fault) :: _ => fault

/-- The fault of an array: elements are read in their order, and it shows last that
there are too few. -/
def arrayFault (faults : List (String × FieldFault)) : Fault :=
  match unreadable faults with
  | [] => .invalidLength
  | (_, fault) :: _ => fault

/-- The record of an object with the given members. -/
def readObject (r : Record ρ α) (empties : EmptySettings) (members : List (String × Json)) :
    Except Fault α :=
  (r.readFields empties fun name => members.lookup name).mapError objectFault

/-- The record of an array with the given elements.  Below it empty settings are
always as good as absent ones. -/
def readArray (r : Record ρ α) (elements : List Json) : Except Fault α :=
  match r.readFields .dropped fun name => (r.names.zip elements).lookup name with
  | .error faults => .error (arrayFault faults)
  | .ok a => if r.names.length < elements.length then .error .invalidLength else .ok a

/-- The record of a JSON value, an object or an array. -/
def read (r : Record ρ α) (empties : EmptySettings) : Json → Except Fault α
  | .obj members => r.readObject empties members
  | .arr elements => r.readArray elements
  | _ => .error .invalidType

/-- The record of a JSON value that must be an object. -/
def readObjectOnly (r : Record ρ α) (empties : EmptySettings) : Json → Except Fault α
  | .obj members => r.readObject empties members
  | _ => .error .invalidType

/-- The JSON value of a record, an object. -/
def write (r : Record ρ α) (record : ρ) : Json := .obj (Assoc.present (r.writeFields record))

end Record

end ClusterTopology
