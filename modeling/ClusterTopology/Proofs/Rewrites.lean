import Mathlib.Data.List.Nodup
import Mathlib.Logic.Relation
import ClusterTopology.Proofs.RoundTrips

/-!
# Rewrites of documents

A value has many documents that it is read from.  The members of an object may stand in any
order, members that a record does not know are not looked at, the default of a field may be
written out or left out, and a record may be given by the array of its fields instead of an
object.  Each of these is a rewrite of documents, at the document itself or anywhere inside
of it.  However many rewrites are made, they do not change what is read.

They may change what is wrong with a document that cannot be read: its faults are met in
another order then.  And all of this is about reading where empty settings are as good as
absent ones; they are never kept in arrays.

What a rewrite may do depends on the type of the value that is read.  A record has a table of
its fields for this, and the law of its description shows that it is the right one: what is
read of the record is decided by what the fields in the table are read as.

## Main definitions

* `Json.Reordered` — members change their places in some object.
* `Rewrite` — the rewrites of a record, given a table of its fields.
* `Spelling` — the rewrites of the documents of a type.
* `Record.Respects` — a description reads what its table says.
* `ReadsAlike` — a type whose documents are read alike, however they are rewritten.

## Main results

* `Record.Respects.seq` — descriptions are put together with their tables.
* `Record.Respects.rewrite` — a rewrite does not change what a record is read as.
* `Wire.Respects.readsAlike` — if one rewrite does not change what is read, then no number of
  them does.
-/

namespace ClusterTopology

/-! ### What is read -/

section

variable {ε ε' α β : Type}

theorem toOption_eq_iff {e e' : Except ε α} :
    e.toOption = e'.toOption ↔ ∀ a, e = .ok a ↔ e' = .ok a := by
  cases e <;> cases e' <;> simp [Except.toOption, eq_comm]

@[simp] theorem toOption_mapError (f : ε → ε') (e : Except ε α) :
    (e.mapError f).toOption = e.toOption := by
  cases e <;> rfl

@[simp] theorem toOption_map (f : α → β) (e : Except ε α) :
    (e.map f).toOption = e.toOption.map f := by
  cases e <;> rfl

@[simp] theorem toOption_bind (e : Except ε α) (f : α → Except ε β) :
    (e >>= f).toOption = e.toOption >>= fun a => (f a).toOption := by
  cases e <;> rfl

theorem toOption_mapM (f : α → Except ε β) (items : List α) :
    (items.mapM f).toOption = items.mapM fun a => (f a).toOption := by
  induction items with
  | nil => rfl
  | cons a items ih =>
    rw [List.mapM_cons, List.mapM_cons, toOption_bind]
    simp only [toOption_bind, ih]
    rfl

/-- An item may be replaced by one that is read alike. -/
theorem toOption_mapM_middle {f : α → Except ε β} (before after : List α) {a a' : α}
    (h : (f a).toOption = (f a').toOption) :
    ((before ++ a :: after).mapM f).toOption = ((before ++ a' :: after).mapM f).toOption := by
  rw [toOption_mapM, toOption_mapM, List.mapM_append, List.mapM_append, List.mapM_cons,
    List.mapM_cons, h]

end

/-- The value that a JSON value is read as, if it can be read. -/
def Wire.value? (α : Type) [Wire α] (j : Json) : Option α :=
  (Wire.decode j : Except Fault α).toOption

/-- Rewrites do not change what is read. -/
def Respects {α : Type} (value? : Json → Option α) (rewrite : Json → Json → Prop) : Prop :=
  ∀ j j', rewrite j j' → value? j = value? j'

/-! ### Rewrites -/

/-- Members change their places in some object. -/
inductive Json.Reordered : Json → Json → Prop
  /-- In the object itself. -/
  | members {members members' : List (String × Json)} (hnames : (members.map (·.1)).Nodup)
      (h : members.Perm members') : Reordered (.obj members) (.obj members')
  /-- In one of its members. -/
  | member (before after : List (String × Json)) (name : String) {j j' : Json}
      (h : Reordered j j') :
      Reordered (.obj (before ++ (name, j) :: after)) (.obj (before ++ (name, j') :: after))
  /-- In one of the elements of an array. -/
  | element (before after : List Json) {j j' : Json} (h : Reordered j j') :
      Reordered (.arr (before ++ j :: after)) (.arr (before ++ j' :: after))

namespace Field

variable {α : Type}

/-- The value of a field, given what a document has for it, where it may have nothing. -/
def value? (f : Field α) : Option Json → Option α
  | some j => (f.read .dropped j).toOption
  | none => f.absent

/-- What a document has for a field stands for the default of the field. -/
def ReadsDefault (f : Field α) (j? : Option Json) : Prop :=
  ∃ d, f.absent = some d ∧ f.value? j? = some d

theorem ReadsDefault.value?_eq {f : Field α} {j? j?' : Option Json} (h : f.ReadsDefault j?)
    (h' : f.ReadsDefault j?') : f.value? j? = f.value? j?' := by
  obtain ⟨d, hd, hj⟩ := h
  obtain ⟨d', hd', hj'⟩ := h'
  rw [hj, hj', ← hd, hd']

theorem ReadsDefault.value?_eq_absent {f : Field α} {j? : Option Json} (h : f.ReadsDefault j?) :
    f.value? j? = f.value? none := by
  obtain ⟨d, hd, hj⟩ := h
  exact hj.trans hd.symm

end Field

/-- A field of a record, in a table, with the rewrites of the documents of its values. -/
structure Entry where
  /-- The type of the values. -/
  {Value : Type}
  /-- The field. -/
  field : Field Value
  /-- The rewrites. -/
  rewrite : Json → Json → Prop

/-- The rewrites of the documents of a record with the given fields. -/
inductive Rewrite (entries : List Entry) : Json → Json → Prop
  /-- Members change their places. -/
  | reorder {members members' : List (String × Json)} (hnames : (members.map (·.1)).Nodup)
      (h : members.Perm members') : Rewrite entries (.obj members) (.obj members')
  /-- A member is added that the record does not know. -/
  | unknown (before after : List (String × Json)) {name : String} (j : Json)
      (h : name ∉ entries.map (·.field.name)) :
      Rewrite entries (.obj (before ++ after)) (.obj (before ++ (name, j) :: after))
  /-- The default of an absent field is written out. -/
  | default (before after : List (String × Json)) {e : Entry} (he : e ∈ entries) {j : Json}
      (habsent : e.field.name ∉ (before ++ after).map (·.1))
      (h : e.field.ReadsDefault (some j)) :
      Rewrite entries (.obj (before ++ after)) (.obj (before ++ (e.field.name, j) :: after))
  /-- An object becomes the array of the known fields in their order.  A default may be written
  out in the array, and left out at its end. -/
  | array {members : List (String × Json)} {elements : List Json}
      (hlength : elements.length ≤ entries.length)
      (h : ∀ (i : Nat) (e : Entry), entries[i]? = some e →
        elements[i]? = members.lookup e.field.name ∨
          e.field.ReadsDefault elements[i]? ∧
            e.field.ReadsDefault (members.lookup e.field.name)) :
      Rewrite entries (.obj members) (.arr elements)
  /-- A member is rewritten, one that the record does not know in any way. -/
  | member (before after : List (String × Json)) {name : String} {j j' : Json}
      (h : ∀ e ∈ entries, e.field.name = name → e.rewrite j j') :
      Rewrite entries (.obj (before ++ (name, j) :: after)) (.obj (before ++ (name, j') :: after))
  /-- An element of an array is rewritten, one beyond the fields in any way. -/
  | element (before after : List Json) {j j' : Json}
      (h : ∀ e, entries[before.length]? = some e → e.rewrite j j') :
      Rewrite entries (.arr (before ++ j :: after)) (.arr (before ++ j' :: after))

/-- The rewrites of the documents of a list, given those of its items. -/
inductive ListRewrite (rewrite : Json → Json → Prop) : Json → Json → Prop
  /-- An item is rewritten. -/
  | item (before after : List Json) {j j' : Json} (h : rewrite j j') :
      ListRewrite rewrite (.arr (before ++ j :: after)) (.arr (before ++ j' :: after))
  /-- Members change their places in an object, which is no list. -/
  | object {members members' : List (String × Json)}
      (h : Json.Reordered (.obj members) (.obj members')) :
      ListRewrite rewrite (.obj members) (.obj members')

/-! ### Spellings -/

/-- The rewrites of the documents of a type. -/
class Spelling (α : Type) where
  /-- One rewrite, at the document itself or somewhere inside of it. -/
  rewrite : Json → Json → Prop

/-- Absent values stay absent. -/
instance {α : Type} [Spelling α] : Spelling (Option α) where
  rewrite j j' := j ≠ .null ∧ j' ≠ .null ∧ Spelling.rewrite α j j'

instance {α : Type} [Spelling α] : Spelling (List α) := ⟨ListRewrite (Spelling.rewrite α)⟩

/-- The entry of a field in a table. -/
def Entry.of {α : Type} [Spelling α] (f : Field α) : Entry := ⟨f, Spelling.rewrite α⟩

/-- A rewrite does not change what the documents of a type are read as. -/
abbrev Wire.Respects (α : Type) [Wire α] [Spelling α] : Prop :=
  ClusterTopology.Respects (Wire.value? α) (Spelling.rewrite α)

/-! ### Values without fields -/

/-- A type whose values are neither objects nor arrays. -/
theorem respects_of_none {α : Type} [Wire α] (hobj : ∀ members, Wire.value? α (.obj members) = none)
    (harr : ∀ elements, Wire.value? α (.arr elements) = none) :
    Respects (Wire.value? α) Json.Reordered := by
  intro j j' h
  cases h with
  | members => rw [hobj, hobj]
  | member => rw [hobj, hobj]
  | element => rw [harr, harr]

theorem Json.Reordered.ne_null {j j' : Json} (h : Json.Reordered j j') :
    j ≠ .null ∧ j' ≠ .null := by
  cases h <;> exact ⟨nofun, nofun⟩

section

variable {α : Type} {variant? : String → Option α}

theorem readVariant_obj_eq_ok_iff {members : List (String × Json)} {a : α} :
    readVariant variant? (.obj members) = .ok a ↔
      ∃ name, members = [(name, .null)] ∧ variant? name = some a := by
  match members with
  | [] => exact iff_of_false nofun (by rintro ⟨_, hmembers, -⟩; cases hmembers)
  | _ :: _ :: _ => exact iff_of_false nofun (by rintro ⟨_, hmembers, -⟩; cases hmembers)
  | [(name, contents)] =>
    have hsingle : ∀ name', [(name, contents)] = [(name', Json.null)] ↔
        name' = name ∧ contents = .null := by
      intro name'
      rw [List.singleton_inj, Prod.mk.injEq, eq_comm]
    simp only [hsingle, and_assoc, exists_eq_left]
    cases hvariant : variant? name <;> cases contents <;> simp [readVariant, hvariant]

theorem respects_readVariant :
    Respects (fun j => (readVariant variant? j).toOption) Json.Reordered := by
  intro j j' h
  rw [toOption_eq_iff]
  intro a
  cases h with
  | members hnames h =>
    rw [readVariant_obj_eq_ok_iff, readVariant_obj_eq_ok_iff]
    refine exists_congr fun name => and_congr_left fun _ => ?_
    constructor
    · rintro rfl
      exact List.singleton_perm.mp h |>.symm
    · rintro rfl
      exact List.perm_singleton.mp h
  | member before after name h =>
    have hne : ∀ (contents : Json) (name' : String), contents ≠ .null →
        before ++ (name, contents) :: after ≠ [(name', .null)] := by
      intro contents name' hcontents heq
      have hmem : (name, contents) ∈ [(name', Json.null)] := by
        rw [← heq]
        exact List.mem_append_right before List.mem_cons_self
      exact hcontents (Prod.mk.inj (List.mem_singleton.mp hmem)).2
    obtain ⟨hj, hj'⟩ := h.ne_null
    rw [readVariant_obj_eq_ok_iff, readVariant_obj_eq_ok_iff]
    simp only [hne _ _ hj, hne _ _ hj', false_and]
  | element => rfl

end

/-! ### Lists and optional values -/

theorem respects_list {α : Type} [Wire α] [Spelling α] (h : Wire.Respects α) :
    Wire.Respects (List α) := by
  intro j j' hj
  cases hj with
  | item before after hj => exact toOption_mapM_middle before after (h _ _ hj)
  | object => rfl

theorem value?_option {α : Type} [Wire α] {j : Json} (h : j ≠ .null) :
    Wire.value? (Option α) j = (Wire.value? α j).map some := by
  cases j with
  | null => exact absurd rfl h
  | bool | int | float | str | arr | obj => exact toOption_map some _

theorem respects_option {α : Type} [Wire α] [Spelling α] (h : Wire.Respects α) :
    Wire.Respects (Option α) := by
  rintro j j' ⟨hj, hj', hrewrite⟩
  rw [value?_option hj, value?_option hj', h j j' hrewrite]

/-! ### Fields -/

/-- A rewrite does not change what a field is read as. -/
abbrev Entry.Respects (e : Entry) : Prop :=
  ClusterTopology.Respects (fun j => e.field.value? (some j)) e.rewrite

namespace Entry.Respects

variable {α : Type} [Wire α] [Spelling α]

theorem required (h : Wire.Respects α) (name : String) :
    (Entry.of (.required name : Field α)).Respects := h

theorem defaulted (h : Wire.Respects α) (name : String) (d : α) :
    (Entry.of (.defaulted name d)).Respects := h

theorem optional (h : Wire.Respects α) (name : String) :
    (Entry.of (.optional name : Field (Option α))).Respects := respects_option h

end Entry.Respects

/-! ### Descriptions -/

namespace Record

variable {ρ α β : Type}

/-- A description reads what its table says: it has the fields of the table in their order, it
reads them and nothing else, and rewrites do not change what it reads. -/
structure Respects (r : Record ρ α) (entries : List Entry) : Prop where
  /-- The names of the fields are those in the table. -/
  names_eq : r.names = entries.map (·.field.name)
  /-- What is read is decided by what the fields are read as. -/
  congr : ∀ values values' : String → Option Json,
    (∀ e ∈ entries, e.field.value? (values e.field.name) = e.field.value? (values' e.field.name)) →
      (r.readFields .dropped values).toOption = (r.readFields .dropped values').toOption
  /-- A rewrite does not change what a field is read as. -/
  respects : ∀ e ∈ entries, e.Respects

theorem toOption_readFields_field (f : Field α) (get : ρ → α) (values : String → Option Json) :
    ((Record.field f get).readFields .dropped values).toOption = f.value? (values f.name) := by
  unfold Record.field
  simp only
  cases values f.name with
  | some j => exact toOption_mapError _ _
  | none => cases h : f.absent <;> simp [Field.value?, Except.toOption, h]

theorem Respects.field [Spelling α] {f : Field α} (h : (Entry.of f).Respects) (get : ρ → α) :
    (Record.field f get).Respects [.of f] where
  names_eq := rfl
  congr values values' hvalues := by
    rw [toOption_readFields_field, toOption_readFields_field]
    exact hvalues _ (List.mem_singleton.mpr rfl)
  respects := List.forall_mem_singleton.mpr h

theorem Respects.pure (a : α) : (Record.pure a : Record ρ α).Respects [] where
  names_eq := rfl
  congr _ _ _ := rfl
  respects := List.forall_mem_nil _

theorem Respects.constant (name : String) (j : Json) :
    (Record.constant name j : Record ρ Unit).Respects [] where
  names_eq := rfl
  congr _ _ _ := rfl
  respects := List.forall_mem_nil _

/-- **Descriptions are put together with their tables.** -/
theorem Respects.seq {f : Record ρ (α → β)} {x : Record ρ α} {entries entries' : List Entry}
    (hf : f.Respects entries) (hx : x.Respects entries') :
    (f <*> x).Respects (entries ++ entries') where
  names_eq := by
    rw [List.map_append, ← hf.names_eq, ← hx.names_eq]
    rfl
  congr values values' hvalues := by
    obtain ⟨hvaluesf, hvaluesx⟩ := List.forall_mem_append.mp hvalues
    have hreadf := toOption_eq_iff.mp (hf.congr values values' hvaluesf)
    have hreadx := toOption_eq_iff.mp (hx.congr values values' hvaluesx)
    refine toOption_eq_iff.mpr fun b => ?_
    simp only [readFields_seq_eq_ok_iff, hreadf, hreadx]
  respects := List.forall_mem_append.mpr ⟨hf.respects, hx.respects⟩

theorem Respects.map {x : Record ρ α} {entries : List Entry} (hx : x.Respects entries)
    (g : α → β) : (g <$> x).Respects entries :=
  (Respects.pure g).seq hx

/-- What a description reads first may be of no use. -/
theorem Respects.discard {y : Record ρ β} {x : Record ρ α} {entries entries' : List Entry}
    (hy : y.Respects entries) (hx : x.Respects entries') :
    (y *> x).Respects (entries ++ entries') :=
  (hy.map fun _ => id).seq hx

/-! ### Records -/

variable {r : Record ρ ρ} {entries : List Entry}

theorem toOption_readObject (r : Record ρ α) (members : List (String × Json)) :
    (r.read .dropped (.obj members)).toOption =
      (r.readFields .dropped fun name => members.lookup name).toOption :=
  toOption_mapError _ _

theorem toOption_readArray (r : Record ρ α) (elements : List Json) :
    (r.read .dropped (.arr elements)).toOption =
      if elements.length ≤ r.names.length then
        (r.readFields .dropped fun name => (r.names.zip elements).lookup name).toOption
      else none := by
  change (r.readArray elements).toOption = _
  unfold readArray
  cases r.readFields .dropped fun name => (r.names.zip elements).lookup name with
  | error faults => exact (ite_self _).symm
  | ok a =>
    by_cases h : elements.length ≤ r.names.length
    · rw [if_pos h]
      simp only [if_neg (Nat.not_lt.mpr h)]
      rfl
    · rw [if_neg h]
      simp only [if_pos (Nat.not_le.mp h)]
      rfl

theorem Respects.read_obj_eq (h : r.Respects entries) {members members' : List (String × Json)}
    (hvalues : ∀ e ∈ entries, e.field.value? (members.lookup e.field.name) =
      e.field.value? (members'.lookup e.field.name)) :
    (r.read .dropped (.obj members)).toOption = (r.read .dropped (.obj members')).toOption := by
  rw [toOption_readObject, toOption_readObject]
  exact h.congr _ _ hvalues

theorem getElem?_middle {γ : Type} (before after : List γ) (c : γ) :
    (before ++ c :: after)[before.length]? = some c := by
  rw [List.getElem?_append_right (Nat.le_refl _), Nat.sub_self, List.getElem?_cons_zero]

theorem getElem?_middle_of_ne {γ : Type} {before after : List γ} {i : Nat}
    (h : i ≠ before.length) (c c' : γ) :
    (before ++ c :: after)[i]? = (before ++ c' :: after)[i]? := by
  rcases Nat.lt_or_gt_of_ne h with hlt | hgt
  · rw [List.getElem?_append_left hlt, List.getElem?_append_left hlt]
  · obtain ⟨k, hk⟩ : ∃ k, i - before.length = k + 1 := ⟨i - before.length - 1, by omega⟩
    have hle : before.length ≤ i := Nat.le_of_lt hgt
    rw [List.getElem?_append_right hle, List.getElem?_append_right hle, hk,
      List.getElem?_cons_succ, List.getElem?_cons_succ]

/-- In an array, a field has the value at its place. -/
theorem lookup_zip_names {entries : List Entry} (hnames : (entries.map (·.field.name)).Nodup)
    {i : Nat} {e : Entry} (he : entries[i]? = some e) (elements : List Json) :
    ((entries.map (·.field.name)).zip elements).lookup e.field.name = elements[i]? := by
  have hname : (entries.map (·.field.name))[i]? = some e.field.name := by
    rw [List.getElem?_map, he]
    rfl
  exact Assoc.lookup_zip hnames hname elements

/-- **A rewrite does not change what a record is read as.** -/
theorem Respects.rewrite (h : r.Respects entries) (hnames : (entries.map (·.field.name)).Nodup) :
    ClusterTopology.Respects (fun j => (r.read .dropped j).toOption) (Rewrite entries) := by
  intro j j' hj
  cases hj with
  | reorder hmembers hperm =>
    refine h.read_obj_eq fun e _ => ?_
    rw [Assoc.lookup_eq_of_perm hmembers hperm]
  | @unknown before after name j hunknown =>
    refine h.read_obj_eq fun e he => ?_
    have hne : e.field.name ≠ name := by
      rintro rfl
      exact hunknown (List.mem_map_of_mem he)
    rw [Assoc.lookup_insert_of_ne hne]
  | @default before after e he j habsent hdefault =>
    refine h.read_obj_eq fun e' he' => ?_
    -- no other field has the name of this one
    by_cases hname : e'.field.name = e.field.name
    · obtain rfl := List.inj_on_of_nodup_map hnames he' he hname
      rw [Assoc.lookup_insert_self habsent, Assoc.lookup_eq_none_of_notMem habsent]
      exact hdefault.value?_eq_absent.symm
    · rw [Assoc.lookup_insert_of_ne hname]
  | @array members elements hlength harray =>
    simp only [toOption_readObject, toOption_readArray]
    rw [if_pos (by rwa [h.names_eq, List.length_map]), h.names_eq]
    refine h.congr _ _ fun e he => ?_
    obtain ⟨i, hi⟩ := List.mem_iff_getElem?.mp he
    rw [lookup_zip_names hnames hi]
    rcases harray i e hi with heq | ⟨helement, hmember⟩
    · rw [heq]
    · exact hmember.value?_eq helement
  | @member before after name j j' hmember =>
    refine h.read_obj_eq fun e he => ?_
    by_cases hname : e.field.name = name
    · rw [Assoc.lookup_middle, Assoc.lookup_middle, if_pos hname, if_pos hname]
      cases before.lookup e.field.name with
      -- the first member of a name counts, and it has not changed
      | some _ => rfl
      | none => exact h.respects e he j j' (hmember e he hname)
    · rw [Assoc.lookup_middle, Assoc.lookup_middle, if_neg hname, if_neg hname]
  | @element before after j j' helement =>
    simp only [toOption_readArray]
    have hlength : (before ++ j :: after).length = (before ++ j' :: after).length := by
      rw [List.length_append, List.length_append, List.length_cons, List.length_cons]
    rw [hlength, h.names_eq]
    congr 1
    refine h.congr _ _ fun e he => ?_
    obtain ⟨i, hi⟩ := List.mem_iff_getElem?.mp he
    rw [lookup_zip_names hnames hi, lookup_zip_names hnames hi]
    by_cases hplace : i = before.length
    · subst hplace
      rw [getElem?_middle, getElem?_middle]
      exact h.respects e he j j' (helement e hi)
    · rw [getElem?_middle_of_ne hplace j j']

end Record

/-! ### Any number of rewrites -/

/-- The documents of a type are read alike, however often they are rewritten, to and fro. -/
def ReadsAlike (α : Type) [Wire α] [Spelling α] : Prop :=
  ∀ j j', Relation.EqvGen (Spelling.rewrite α) j j' →
    ∀ x : α, Wire.decode j = .ok x ↔ Wire.decode j' = .ok x

theorem Wire.Respects.readsAlike {α : Type} [Wire α] [Spelling α] (h : Wire.Respects α) :
    ReadsAlike α := by
  intro j j' hj
  have hvalue : Wire.value? α j = Wire.value? α j' := by
    induction hj with
    | rel j j' hj => exact h j j' hj
    | refl j => rfl
    | symm j j' _ ih => exact ih.symm
    | trans j j' j'' _ _ ih ih' => exact ih.trans ih'
  exact toOption_eq_iff.mp hvalue

end ClusterTopology
