import ClusterTopology.Assoc

/-!
# JSON values

The values a JSON text stands for.  Numbers come in two kinds, because a reader
of whole numbers must not take one written as a float: an integer literal of 64
bits is an `int`, every other number is a `float` and keeps its literal.

An object is a list of members with distinct names, and a value is meant to be
used through `Json.member?`, which does not depend on their order.

The part of a value that a path leads to can be replaced.  The last step of a path
may lead to a place that is not there yet: a new member of an object, or the
element after the last one of an array.

## Main definitions

* `Json` — a JSON value.
* `Json.Present` — a JSON value other than null.
* `Json.member?` — a member of an object by its name.
* `Json.setElement` — one element of an array replaced or appended.
* `Json.Step` — a step from a value to one of its parts.
* `Json.setAt` — the value with the part at a path replaced.
-/

namespace ClusterTopology

/-- A JSON value. -/
inductive Json
  /-- The null value. -/
  | null
  /-- A boolean. -/
  | bool (b : Bool)
  /-- An integer. -/
  | int (n : Int)
  /-- Any other number, by its literal. -/
  | float (literal : String)
  /-- A string. -/
  | str (s : String)
  /-- An array of elements. -/
  | arr (elements : List Json)
  /-- An object of named members. -/
  | obj (members : List (String × Json))
  deriving Inhabited

namespace Json

/-! ### Equality -/

mutual

/-- Whether two values are the same. -/
def decEq (v w : Json) : Decidable (v = w) :=
  match v, w with
  | null, null => isTrue rfl
  | bool a, bool b => decidable_of_iff (a = b) (by simp)
  | int m, int n => decidable_of_iff (m = n) (by simp)
  | float a, float b => decidable_of_iff (a = b) (by simp)
  | str a, str b => decidable_of_iff (a = b) (by simp)
  | arr vs, arr ws =>
    have := decEqElements vs ws
    decidable_of_iff (vs = ws) (by simp)
  | obj ms, obj ns =>
    have := decEqMembers ms ns
    decidable_of_iff (ms = ns) (by simp)
  | null, bool _ | null, int _ | null, float _ | null, str _ | null, arr _ | null, obj _ =>
    isFalse (by simp)
  | bool _, null | bool _, int _ | bool _, float _ | bool _, str _ | bool _, arr _
  | bool _, obj _ => isFalse (by simp)
  | int _, null | int _, bool _ | int _, float _ | int _, str _ | int _, arr _ | int _, obj _ =>
    isFalse (by simp)
  | float _, null | float _, bool _ | float _, int _ | float _, str _ | float _, arr _
  | float _, obj _ => isFalse (by simp)
  | str _, null | str _, bool _ | str _, int _ | str _, float _ | str _, arr _ | str _, obj _ =>
    isFalse (by simp)
  | arr _, null | arr _, bool _ | arr _, int _ | arr _, float _ | arr _, str _ | arr _, obj _ =>
    isFalse (by simp)
  | obj _, null | obj _, bool _ | obj _, int _ | obj _, float _ | obj _, str _ | obj _, arr _ =>
    isFalse (by simp)

/-- Whether two lists of elements are the same. -/
def decEqElements (vs ws : List Json) : Decidable (vs = ws) :=
  match vs, ws with
  | [], [] => isTrue rfl
  | v :: vs, w :: ws =>
    have := decEq v w
    have := decEqElements vs ws
    decidable_of_iff (v = w ∧ vs = ws) (by simp)
  | [], _ :: _ | _ :: _, [] => isFalse (by simp)

/-- Whether two lists of members are the same, in the same order. -/
def decEqMembers (ms ns : List (String × Json)) : Decidable (ms = ns) :=
  match ms, ns with
  | [], [] => isTrue rfl
  | (a, v) :: ms, (b, w) :: ns =>
    have := decEq v w
    have := decEqMembers ms ns
    decidable_of_iff ((a = b ∧ v = w) ∧ ms = ns) (by simp)
  | [], _ :: _ | _ :: _, [] => isFalse (by simp)

end

instance : DecidableEq Json := decEq

/-- A value other than null. -/
structure Present where
  /-- The value. -/
  value : Json
  /-- It is not null. -/
  ne_null : value ≠ null
  deriving DecidableEq

/-! ### Numbers and parts -/

/-- The least integer that is not a float. -/
def minInt : Int := -0x8000000000000000

/-- The greatest integer that is not a float. -/
def maxInt : Int := 0xFFFFFFFFFFFFFFFF

/-- The member of an object called `name`; other values have none. -/
def member? (name : String) : Json → Option Json
  | obj members => members.lookup name
  | _ => none

/-- The elements after the one at index `i` becomes `v`; an index one past the
end appends. -/
def setElement (i : Nat) (v : Json) (elements : List Json) : Option (List Json) :=
  if i < elements.length then some (elements.set i v)
  else if i = elements.length then some (elements ++ [v])
  else none

@[simp] theorem member?_obj (name : String) (members : List (String × Json)) :
    (obj members).member? name = members.lookup name := rfl

/-! ### Paths -/

/-- A step from a value to one of its parts. -/
inductive Step
  /-- To a member of an object. -/
  | member (name : String)
  /-- To an element of an array. -/
  | element (index : Nat)
  deriving DecidableEq, Repr

/-- The part of a value that a step leads to. -/
def part? : Json → Step → Option Json
  | v, .member name => v.member? name
  | arr elements, .element i => elements[i]?
  | _, .element _ => none

/-- The value after the part that a step leads to becomes `new`. -/
def setPart : Json → Step → Json → Option Json
  | obj members, .member name, new => some (obj (Assoc.set name new members))
  | arr elements, .element i, new => (setElement i new elements).map arr
  | _, _, _ => none

/-- The value after the part at the end of the path becomes `new`; the empty
path leads to the whole value. -/
def setAt (v : Json) : List Step → Json → Option Json
  | [], new => some new
  | [step], new => v.setPart step new
  | step :: path, new => do
    let old ← v.part? step
    let changed ← old.setAt path new
    v.setPart step changed

@[simp] theorem setAt_nil (v new : Json) : v.setAt [] new = some new := rfl

@[simp] theorem setAt_singleton (v new : Json) (step : Step) :
    v.setAt [step] new = v.setPart step new := rfl

end Json

end ClusterTopology
