import Mathlib.Data.List.Forall2
import ClusterTopology.Proofs.Deployments
import ClusterTopology.Wire.Installation

/-!
# Reading back what was written

Every value of every type on the wire can be written, and its written form can be read.
What is read is the value itself but for empty settings of deployments, which are not told
apart from absent ones.  Values that were read have none, so that they stay as they are
from then on.

A record is described field by field, and so is what happens to it on the wire: each field
is brought to its settled form or stays as it is, and the laws of fields are put together
by the same operations as the fields themselves.

## Main definitions

* `ReadsBack` — reading a written value settles it, and what is read is settled.
* `Field.ReadsBack`, `Record.ReadsBack` — the same for a field and for a description.
* `RoundTrips` — a type whose values lose nothing on the wire but empty settings.

## Main results

* `Record.ReadsBack.seq` — descriptions are put together with their laws.
* `Record.readsBack` — the law of a record from that of its description.
* `roundTrips_resources` — **every part of an installation loses nothing on the wire but
  empty settings.**
-/

namespace ClusterTopology

/-- Reading a value back brings it to its settled form, and what is read is settled. -/
structure ReadsBack {α : Type} (read : Json → Except Fault α) (write : α → Json)
    (settle : α → α) : Prop where
  /-- The written form of a value is read as the settled value. -/
  read_write : ∀ a, read (write a) = .ok (settle a)
  /-- What is read is settled. -/
  settle_of_read : ∀ j a, read j = .ok a → settle a = a
  /-- No written form is null, which would be read as an absent value. -/
  write_ne_null : ∀ a, write a ≠ .null

/-- The values of a type are settled when they are written and read back. -/
abbrev Wire.ReadsBack (α : Type) [Wire α] (settle : α → α) : Prop :=
  ClusterTopology.ReadsBack (@Wire.decode α _) Wire.write settle

/-- A law in which every value is settled. -/
theorem ReadsBack.of_id {α : Type} {read : Json → Except Fault α} {write : α → Json}
    (h : ∀ a, read (write a) = .ok a) (hnull : ∀ a, write a ≠ .null) : ReadsBack read write id where
  read_write := h
  settle_of_read _ _ _ := rfl
  write_ne_null := hnull

/-! ### Texts, numbers and variants -/

theorem readsBack_string : Wire.ReadsBack String id :=
  .of_id (fun _ => rfl) (fun _ => nofun)

theorem readsBack_fingerprint : Wire.ReadsBack Fingerprint id :=
  .of_id (fun _ => rfl) (fun _ => nofun)

theorem readsBack_nat : Wire.ReadsBack Nat id := by
  refine .of_id (fun n => ?_) (fun _ => nofun)
  have hnonneg : ¬ (n : Int) < 0 := by omega
  show (if (n : Int) < 0 then (Except.error .invalidValue : Except Fault Nat)
    else .ok (n : Int).toNat) = .ok n
  rw [if_neg hnonneg, Int.toNat_natCast]

theorem int64_in_range (n : Int64) :
    ¬ (n.toInt < Int64.minValue.toInt ∨ Int64.maxValue.toInt < n.toInt) := by
  have hmin := n.minValue_le_toInt
  have hmax := n.toInt_le
  omega

theorem readsBack_int64 : Wire.ReadsBack Int64 id := by
  refine .of_id (fun n => ?_) (fun _ => nofun)
  refine (if_neg (int64_in_range n)).trans ?_
  rw [Int64.ofInt_toInt]

theorem readsBack_present : Wire.ReadsBack Json.Present id :=
  .of_id (fun v => dif_neg v.ne_null) (fun v => v.ne_null)

theorem readFlagLiteral_writeFlagLiteral (l : FlagLiteral) :
    readFlagLiteral (writeFlagLiteral l) = .ok l := by
  cases l with
  | bool b => rfl
  | int n =>
    refine (if_neg (int64_in_range n)).trans ?_
    rw [Int64.ofInt_toInt]
  | text s => rfl

theorem readsBack_flag {α : Type} [Flag α] : ReadsBack (@Flag.read α _) Flag.write id := by
  refine .of_id (fun a => ?_) (fun a => ?_)
  · unfold Flag.read Flag.write
    rw [readFlagLiteral_writeFlagLiteral]
    exact congrArg Except.ok (Flag.ofLiteral_toLiteral a)
  · unfold Flag.write writeFlagLiteral
    cases Flag.toLiteral a <;> nofun

theorem readsBack_replicasUseFqdn : Wire.ReadsBack ReplicasUseFqdn id := readsBack_flag

theorem readsBack_internalReplication : Wire.ReadsBack InternalReplication id := readsBack_flag

theorem readsBack_layoutType : Wire.ReadsBack LayoutType id := by
  refine .of_id (fun a => ?_) (fun _ => nofun)
  cases a <;> rfl

theorem readsBack_shardDefinition : Wire.ReadsBack ShardDefinition id := by
  refine .of_id (fun a => ?_) (fun _ => nofun)
  cases a <;> rfl

/-! ### Lists and labels -/

theorem mapM_map_eq_ok {α β γ : Type} {f : γ → Except Fault β} {g : α → γ} {h : α → β}
    (hfg : ∀ a, f (g a) = .ok (h a)) (items : List α) :
    (items.map g).mapM f = .ok (items.map h) := by
  induction items with
  | nil => rfl
  | cons a items ih =>
    rw [List.map_cons, List.mapM_cons, hfg, ih]
    rfl

/-- A list is read item by item. -/
theorem mapM_eq_ok_iff_forall₂ {α β ε : Type} {f : α → Except ε β} {items : List α} {bs : List β} :
    items.mapM f = .ok bs ↔ List.Forall₂ (fun a b => f a = .ok b) items bs := by
  induction items generalizing bs with
  | nil =>
    rw [List.forall₂_nil_left_iff]
    exact ⟨fun h => (Except.ok.inj h).symm, fun h => congrArg Except.ok h.symm⟩
  | cons a items ih =>
    rw [List.mapM_cons, List.forall₂_cons_left_iff]
    simp only [← ih]
    cases ha : f a with
    | error e => simp [bind, Except.bind]
    | ok b =>
      cases hrest : items.mapM f with
      | error e => simp [bind, Except.bind]
      | ok rest => simp [bind, Except.bind, pure, Except.pure, eq_comm]

theorem forall_of_mapM_eq_ok {β γ : Type} {f : γ → Except Fault β} {P : β → Prop}
    (hf : ∀ c b, f c = .ok b → P b) {items : List γ} {bs : List β} (h : items.mapM f = .ok bs) :
    ∀ b ∈ bs, P b := by
  replace h := mapM_eq_ok_iff_forall₂.mp h
  induction h with
  | nil => exact List.forall_mem_nil _
  | cons hc _ ih => exact List.forall_mem_cons.mpr ⟨hf _ _ hc, ih⟩

theorem readsBack_list {α : Type} [Wire α] {settle : α → α} (h : Wire.ReadsBack α settle) :
    Wire.ReadsBack (List α) (List.map settle) where
  read_write items := mapM_map_eq_ok h.read_write items
  settle_of_read j items hj := by
    cases j with
    | arr elements =>
      exact HasDeployments.map_eq_self_iff.mpr (forall_of_mapM_eq_ok h.settle_of_read hj)
    | null | bool | int | float | str | obj => cases hj
  write_ne_null _ := nofun

theorem readsBack_labels : Wire.ReadsBack Labels id := by
  refine .of_id (fun labels => ?_) (fun _ => nofun)
  have hentries : (labels.toList.map fun label => (label.1, Json.str label.2)).mapM
      (fun m => (@Wire.decode String _ m.2).map (m.1, ·)) = .ok (labels.toList.map id) :=
    mapM_map_eq_ok (g := fun label : String × String => (label.1, Json.str label.2)) (h := id)
      (fun _ => rfl) labels.toList
  rw [List.map_id] at hentries
  have hread : Wire.decode (Wire.write labels) = (Except.ok (SortedMap.ofList labels.toList)
      : Except Fault Labels) := congrArg (Except.map SortedMap.ofList) hentries
  rw [hread, SortedMap.ofList_toList]

/-! ### Fields -/

/-- A field reads its values back as settled ones, from their written form or, if they are
left out, from their absence. -/
structure Field.ReadsBack {α : Type} (f : Field α) (settle : α → α) : Prop where
  /-- The written form of a value is read as the settled value. -/
  read_write : ∀ a j, f.write a = some j → f.read .dropped j = .ok (settle a)
  /-- The absence of a value that is left out stands for the settled value. -/
  absent_write : ∀ a, f.write a = none → f.absent = some (settle a)
  /-- What is read is settled. -/
  settle_of_read : ∀ j a, f.read .dropped j = .ok a → settle a = a
  /-- What absence stands for is settled. -/
  settle_of_absent : ∀ a, f.absent = some a → settle a = a

namespace Field

variable {α : Type} [Wire α] {settle : α → α}

theorem ReadsBack.required (h : Wire.ReadsBack α settle) (name : String) :
    (Field.required name : Field α).ReadsBack settle where
  read_write a j hj := by
    obtain rfl := Option.some.inj hj
    exact h.read_write a
  absent_write _ := nofun
  settle_of_read := h.settle_of_read
  settle_of_absent _ := nofun

theorem ReadsBack.defaulted (h : Wire.ReadsBack α settle) (name : String) {d : α}
    (hd : settle d = d) : (Field.defaulted name d).ReadsBack settle where
  read_write a j hj := by
    obtain rfl := Option.some.inj hj
    exact h.read_write a
  absent_write _ := nofun
  settle_of_read := h.settle_of_read
  settle_of_absent a ha := by
    obtain rfl := Option.some.inj ha
    exact hd

theorem decode_option_write (h : Wire.ReadsBack α id) (a : α) :
    (Wire.decode (Wire.write a) : Except Fault (Option α)) = .ok (some a) := by
  have hread := h.read_write a
  have hnull := h.write_ne_null a
  unfold Wire.decode at hread ⊢
  cases hw : Wire.write a with
  | null => exact absurd hw hnull
  | bool | int | float | str | arr | obj =>
    rw [hw] at hread
    exact congrArg (Except.map some) hread

theorem ReadsBack.optional (h : Wire.ReadsBack α id) (name : String) :
    (Field.optional name : Field (Option α)).ReadsBack id where
  read_write a? j hj := by
    obtain ⟨a, rfl, rfl⟩ := Option.map_eq_some_iff.mp hj
    exact decode_option_write h a
  absent_write a? ha := by
    rw [Option.map_eq_none_iff.mp ha]
    rfl
  settle_of_read _ _ _ := rfl
  settle_of_absent _ _ := rfl

/-- A setting loses an empty text, and keeps any other. -/
theorem ReadsBack.setting (name : String) : (Field.setting name).ReadsBack withoutEmpty where
  read_write s? j hj := by
    obtain ⟨s, rfl, rfl⟩ := Option.map_eq_some_iff.mp hj
    exact congrArg Except.ok (filter_not_isEmpty (some s))
  absent_write s? hs := by
    rw [Option.map_eq_none_iff.mp hs]
    rfl
  settle_of_read j s? hj := by
    have hread : ((Wire.decode j : Except Fault (Option String)).map
        fun s? => s?.filter fun s => ! s.isEmpty) = .ok s? := hj
    cases hs : (Wire.decode j : Except Fault (Option String)) with
    | error fault =>
      rw [hs] at hread
      cases hread
    | ok read? =>
      rw [hs] at hread
      cases hread
      simp only [filter_not_isEmpty, withoutEmpty_withoutEmpty]
  settle_of_absent s? hs := by
    obtain rfl := Option.some.inj hs
    rfl

end Field

/-! ### Descriptions -/

/-- A description reads values of a record back as settled ones, from any members among
which are the written ones, and all that it reads has the property `P`. -/
structure Record.ReadsBack {ρ α : Type} (r : Record ρ α) (settle : ρ → α) (P : α → Prop) :
    Prop where
  /-- The written fields are read as the settled value, whatever is written beside them. -/
  read_write : ∀ (x : ρ) (written : List (String × Option Json)), (written.map (·.1)).Nodup →
    r.writeFields x ⊆ written →
      r.readFields .dropped (fun name => (written.lookup name).join) = .ok (settle x)
  /-- What is read has the property. -/
  of_read : ∀ values a, r.readFields .dropped values = .ok a → P a

namespace Record

theorem mapError_eq_ok_iff {ε ε' α : Type} {f : ε → ε'} {e : Except ε α} {a : α} :
    e.mapError f = .ok a ↔ e = .ok a := by
  cases e with
  | ok b =>
    constructor
    · intro h
      exact congrArg Except.ok (Except.ok.inj h)
    · intro h
      exact congrArg Except.ok (Except.ok.inj h)
  | error fault => exact iff_of_false nofun nofun

variable {ρ α β : Type}

theorem ReadsBack.field {f : Field α} {settle : α → α} (h : f.ReadsBack settle) (get : ρ → α) :
    (Record.field f get).ReadsBack (fun x => settle (get x)) (fun a => settle a = a) where
  read_write x written hnodup hsub := by
    have hmem : (f.name, f.write (get x)) ∈ written := hsub (List.mem_singleton.mpr rfl)
    have hlookup := Assoc.lookup_of_mem hnodup hmem
    unfold Record.field
    simp only [hlookup, Option.join_some]
    cases hw : f.write (get x) with
    | some j => exact mapError_eq_ok_iff.mpr (h.read_write _ j hw)
    | none =>
      simp only [h.absent_write _ hw]
      rfl
  of_read values a ha := by
    unfold Record.field at ha
    simp only at ha
    split at ha
    · next j hj => exact h.settle_of_read j a (mapError_eq_ok_iff.mp ha)
    · cases habsent : f.absent with
      | none =>
        rw [habsent] at ha
        cases ha
      | some d =>
        rw [habsent] at ha
        cases ha
        exact h.settle_of_absent a habsent

theorem ReadsBack.pure (a : α) :
    (Record.pure a : Record ρ α).ReadsBack (fun _ => a) (fun b => a = b) where
  read_write _ _ _ _ := rfl
  of_read _ _ hb := Except.ok.inj hb

theorem readFields_seq_eq_ok_iff {f : Record ρ (α → β)} {x : Record ρ α} {empties : EmptySettings}
    {values : String → Option Json} {b : β} :
    (f <*> x).readFields empties values = .ok b ↔
      ∃ g a, f.readFields empties values = .ok g ∧ x.readFields empties values = .ok a ∧
        g a = b := by
  change (Record.seq f x).readFields empties values = .ok b ↔ _
  unfold Record.seq
  cases hf : f.readFields empties values <;> cases hx : x.readFields empties values <;>
    simp [hf, hx]

/-- **Descriptions are put together with their laws.**  What is read is a function that has
its property, applied to a value that has its own. -/
theorem ReadsBack.seq {f : Record ρ (α → β)} {x : Record ρ α} {settleF : ρ → α → β}
    {settle : ρ → α} {P : (α → β) → Prop} {Q : α → Prop} (hf : f.ReadsBack settleF P)
    (hx : x.ReadsBack settle Q) :
    (f <*> x).ReadsBack (fun r => settleF r (settle r)) (fun b => ∃ g a, P g ∧ Q a ∧ g a = b) where
  read_write r written hnodup hsub := by
    obtain ⟨hsubf, hsubx⟩ := List.append_subset.mp hsub
    rw [readFields_seq_eq_ok_iff]
    exact ⟨_, _, hf.read_write r written hnodup hsubf, hx.read_write r written hnodup hsubx, rfl⟩
  of_read values b hb := by
    obtain ⟨g, a, hg, ha, hga⟩ := readFields_seq_eq_ok_iff.mp hb
    exact ⟨g, a, hf.of_read values g hg, hx.of_read values a ha, hga⟩

theorem ReadsBack.map {x : Record ρ α} {settle : ρ → α} {P : α → Prop} (hx : x.ReadsBack settle P)
    (g : α → β) :
    (g <$> x).ReadsBack (fun r => g (settle r)) (fun b => ∃ a, P a ∧ g a = b) where
  read_write := ((ReadsBack.pure g).seq hx).read_write
  of_read values b hb := by
    obtain ⟨_, a, rfl, ha, hga⟩ := ((ReadsBack.pure g).seq hx).of_read values b hb
    exact ⟨a, ha, hga⟩

theorem ReadsBack.constant (name : String) (j : Json) :
    (Record.constant name j : Record ρ Unit).ReadsBack (fun _ => ()) (fun _ => True) where
  read_write _ _ _ _ := rfl
  of_read _ _ _ := trivial

/-- What a description reads first may be of no use. -/
theorem ReadsBack.discard {y : Record ρ β} {x : Record ρ α} {settleY : ρ → β} {settle : ρ → α}
    {Q : β → Prop} {P : α → Prop} (hy : y.ReadsBack settleY Q) (hx : x.ReadsBack settle P) :
    (y *> x).ReadsBack settle P where
  read_write := ((hy.map (fun _ => id)).seq hx).read_write
  of_read values a ha := by
    obtain ⟨_, _, ⟨_, _, rfl⟩, hb, rfl⟩ := ((hy.map (fun _ => id)).seq hx).of_read values a ha
    exact hb

/-! ### Records -/

variable {r : Record ρ ρ} {settle : ρ → ρ} {P : ρ → Prop}

theorem readObject_write (h : r.ReadsBack settle P)
    (hnames : ∀ x, ((r.writeFields x).map (·.1)).Nodup) (x : ρ) :
    r.readObject .dropped (Assoc.present (r.writeFields x)) = .ok (settle x) := by
  have hread := h.read_write x (r.writeFields x) (hnames x) (List.Subset.refl _)
  unfold readObject
  simp only [Assoc.lookup_present (hnames x), hread]
  rfl

theorem of_readObject (h : r.ReadsBack settle P) {members : List (String × Json)} {x : ρ}
    (hx : r.readObject .dropped members = .ok x) : P x :=
  h.of_read _ x (mapError_eq_ok_iff.mp hx)

theorem of_readArray (h : r.ReadsBack settle P) {elements : List Json} {x : ρ}
    (hx : r.readArray elements = .ok x) : P x := by
  unfold readArray at hx
  split at hx
  · cases hx
  · next a ha =>
    split at hx
    · cases hx
    · cases hx
      exact h.of_read _ x ha

/-- The law of a record from that of its description. -/
theorem readsBack (h : r.ReadsBack settle P) (hP : ∀ x, P x → settle x = x)
    (hnames : ∀ x, ((r.writeFields x).map (·.1)).Nodup) :
    ClusterTopology.ReadsBack (r.read .dropped) r.write settle where
  read_write := readObject_write h hnames
  settle_of_read j x hx := by
    cases j with
    | obj members => exact hP x (of_readObject h hx)
    | arr elements => exact hP x (of_readArray h hx)
    | null | bool | int | float | str => cases hx
  write_ne_null _ := nofun

/-- The law of a record that is read from objects only. -/
theorem readsBack_objectOnly (h : r.ReadsBack settle P) (hP : ∀ x, P x → settle x = x)
    (hnames : ∀ x, ((r.writeFields x).map (·.1)).Nodup) :
    ClusterTopology.ReadsBack (r.readObjectOnly .dropped) r.write settle where
  read_write := readObject_write h hnames
  settle_of_read j x hx := by
    cases j with
    | obj members => exact hP x (of_readObject h hx)
    | null | bool | int | float | str | arr => cases hx
  write_ne_null _ := nofun

end Record

/-! ### Types without deployments -/

theorem readsBack_zone : Wire.ReadsBack Zone id := by
  have h : Zone.fields.ReadsBack id _ :=
    Record.ReadsBack.field (.defaulted readsBack_labels _ (by rfl)) _
      |>.map _
  exact Record.readsBack h (fun _ _ => rfl) (fun _ => of_decide_eq_true rfl)

theorem readsBack_metadata : Wire.ReadsBack Metadata id := by
  have htexts : Wire.ReadsBack (List String) id := by
    simpa only [List.map_id_fun] using readsBack_list readsBack_string
  have hrecords : Wire.ReadsBack (List Json.Present) id := by
    simpa only [List.map_id_fun] using readsBack_list readsBack_present
  have h : Metadata.fields.ReadsBack id _ :=
    Record.ReadsBack.field (.optional readsBack_string _) _
      |>.map _
      |>.seq (.field (.optional readsBack_string _) _)
      |>.seq (.field (.optional readsBack_string _) _)
      |>.seq (.field (.optional readsBack_string _) _)
      |>.seq (.field (.optional readsBack_string _) _)
      |>.seq (.field (.optional readsBack_labels _) _)
      |>.seq (.field (.optional readsBack_labels _) _)
      |>.seq (.field (.optional htexts _) _)
      |>.seq (.field (.optional readsBack_int64 _) _)
      |>.seq (.field (.optional hrecords _) _)
      |>.seq (.field (.optional readsBack_present _) _)
      |>.seq (.field (.optional readsBack_present _) _)
      |>.seq (.field (.optional readsBack_int64 _) _)
      |>.seq (.field (.optional hrecords _) _)
      |>.seq (.field (.optional readsBack_string _) _)
  refine Record.readsBack_objectOnly h (fun _ _ => rfl) fun x => ?_
  simp [Metadata.fields, Field.optional]

/-! ### Types with deployments -/

theorem readsBack_deployment : Wire.ReadsBack Deployment withoutEmpties := by
  have h : Deployment.fields.ReadsBack withoutEmpties _ :=
    Record.ReadsBack.field (.setting _) _
      |>.map _
      |>.seq (.field (.setting _) _)
      |>.seq (.field (.setting _) _)
      |>.seq (.field (.defaulted readsBack_zone _ (by rfl)) _)
      |>.seq (.field (.optional readsBack_fingerprint _) _)
      |>.seq (.field (.optional readsBack_nat _) _)
  refine Record.readsBack h ?_ (fun _ => of_decide_eq_true rfl)
  -- What was read is taken apart from its last field to its first.
  rintro _ ⟨_, _, ⟨_, _, ⟨_, _, ⟨_, scenario, ⟨_, volume,
    ⟨pod, hpod, rfl⟩, hvolume, rfl⟩, hscenario, rfl⟩, _, rfl⟩, _, rfl⟩, _, rfl⟩
  exact Deployment.ext hpod hvolume hscenario rfl rfl rfl

theorem readsBack_replica : Wire.ReadsBack Replica withoutEmpties := by
  have h : Replica.fields.ReadsBack withoutEmpties _ :=
    Record.ReadsBack.field (.defaulted readsBack_deployment _ (by rfl)) _
      |>.map _
  refine Record.readsBack h ?_ (fun _ => of_decide_eq_true rfl)
  rintro _ ⟨deployment, hdeployment, rfl⟩
  exact Replica.ext hdeployment

theorem readsBack_shard : Wire.ReadsBack Shard withoutEmpties := by
  have h : Shard.fields.ReadsBack withoutEmpties _ :=
    Record.ReadsBack.field (.defaulted readsBack_shardDefinition _ (by rfl)) _
      |>.map _
      |>.seq (.field (.defaulted readsBack_nat _ (by rfl)) _)
      |>.seq (.field (.optional readsBack_internalReplication _) _)
      |>.seq (.field (.defaulted readsBack_deployment _ (by rfl)) _)
      |>.seq (.field (.defaulted (readsBack_list readsBack_replica) _ (by rfl)) _)
  refine Record.readsBack h ?_ (fun _ => of_decide_eq_true rfl)
  rintro _ ⟨_, replicas, ⟨_, deployment, ⟨_, _, ⟨_, _, ⟨_, _, rfl⟩, _, rfl⟩, _, rfl⟩,
    hdeployment, rfl⟩, hreplicas, rfl⟩
  exact Shard.ext rfl rfl rfl hdeployment hreplicas

theorem readsBack_layout : Wire.ReadsBack Layout withoutEmpties := by
  have h : Layout.fields.ReadsBack withoutEmpties _ :=
    Record.ReadsBack.field (.defaulted readsBack_layoutType _ (by rfl)) _
      |>.map _
      |>.seq (.field (.defaulted readsBack_nat _ (by rfl)) _)
      |>.seq (.field (.defaulted readsBack_nat _ (by rfl)) _)
      |>.seq (.field (.defaulted (readsBack_list readsBack_shard) _ (by rfl)) _)
  refine Record.readsBack h ?_ (fun _ => of_decide_eq_true rfl)
  rintro _ ⟨_, shards, ⟨_, _, ⟨_, _, ⟨_, _, rfl⟩, _, rfl⟩, _, rfl⟩, hshards, rfl⟩
  exact Layout.ext rfl rfl rfl hshards

theorem readsBack_cluster : Wire.ReadsBack Cluster withoutEmpties := by
  have h : Cluster.fields.ReadsBack withoutEmpties _ :=
    Record.ReadsBack.field (.defaulted readsBack_string _ (by rfl)) _
      |>.map _
      |>.seq (.field (.defaulted readsBack_layout _ (by rfl)) _)
      |>.seq (.field (.defaulted readsBack_deployment _ (by rfl)) _)
  refine Record.readsBack h ?_ (fun _ => of_decide_eq_true rfl)
  rintro _ ⟨_, deployment, ⟨_, layout, ⟨_, _, rfl⟩, hlayout, rfl⟩, hdeployment, rfl⟩
  exact Cluster.ext rfl hlayout hdeployment

theorem readsBack_defaults : Wire.ReadsBack Defaults withoutEmpties := by
  have h : Defaults.fields.ReadsBack withoutEmpties _ :=
    Record.ReadsBack.field (.optional readsBack_replicasUseFqdn _) _
      |>.map _
      |>.seq (.field (.defaulted readsBack_deployment _ (by rfl)) _)
  refine Record.readsBack h ?_ (fun _ => of_decide_eq_true rfl)
  rintro _ ⟨_, deployment, ⟨_, _, rfl⟩, hdeployment, rfl⟩
  exact Defaults.ext rfl hdeployment

theorem readsBack_configuration : Wire.ReadsBack Configuration withoutEmpties := by
  have h : Configuration.fields.ReadsBack withoutEmpties _ :=
    Record.ReadsBack.field (.defaulted (readsBack_list readsBack_cluster) _ (by rfl)) _
      |>.map _
  refine Record.readsBack h ?_ (fun _ => of_decide_eq_true rfl)
  rintro _ ⟨clusters, hclusters, rfl⟩
  exact Configuration.ext hclusters

theorem readsBack_spec : Wire.ReadsBack Spec withoutEmpties := by
  have h : Spec.fields.ReadsBack withoutEmpties _ :=
    Record.ReadsBack.field (.defaulted readsBack_defaults _ (by rfl)) _
      |>.map _
      |>.seq (.field (.defaulted readsBack_configuration _ (by rfl)) _)
  refine Record.readsBack h ?_ (fun _ => of_decide_eq_true rfl)
  rintro _ ⟨_, configuration, ⟨defaults, hdefaults, rfl⟩, hconfiguration, rfl⟩
  exact Spec.ext hdefaults hconfiguration

theorem readsBack_installation : Wire.ReadsBack Installation withoutEmpties := by
  have h : Installation.fields.ReadsBack withoutEmpties _ :=
    Record.ReadsBack.constant _ _
      |>.discard (.constant _ _)
      |>.discard (Record.ReadsBack.field (.required readsBack_metadata _) _
          |>.map _
          |>.seq (.field (.required readsBack_spec _) _))
  refine Record.readsBack h ?_ (fun _ => of_decide_eq_true rfl)
  rintro _ ⟨_, spec, ⟨metadata, _, rfl⟩, hspec, rfl⟩
  exact Installation.ext rfl hspec

/-! ### Round trips -/

/-- The values of a type lose nothing on the wire but empty settings of their deployments. -/
structure RoundTrips (α : Type) [Wire α] [HasDeployments α] : Prop where
  /-- The written form of a value is read as the value without empty settings. -/
  decode_write : ∀ x : α, Wire.decode (Wire.write x) = .ok (withoutEmpties x)
  /-- It is read as the value itself exactly if no deployment in the value has an empty
  setting. -/
  decode_write_eq_self_iff : ∀ x : α, Wire.decode (Wire.write x) = .ok x ↔
    ∀ d ∈ HasDeployments.deployments x, ¬ d.HasEmptySetting
  /-- Reading, writing and reading again gives what reading gives. -/
  decode_write_of_decode : ∀ (j : Json) (x : α), Wire.decode j = .ok x →
    Wire.decode (Wire.write x) = .ok x

theorem Wire.ReadsBack.roundTrips {α : Type} [Wire α] [HasDeployments α]
    (h : Wire.ReadsBack α withoutEmpties) : RoundTrips α where
  decode_write := h.read_write
  decode_write_eq_self_iff x := by
    rw [h.read_write, Except.ok.injEq, withoutEmpties_eq_self_iff]
  decode_write_of_decode j x hx := by
    rw [h.read_write, h.settle_of_read j x hx]

/-- **Every part of an installation loses nothing on the wire but empty settings.** -/
theorem roundTrips_resources :
    RoundTrips Installation ∧ RoundTrips Spec ∧ RoundTrips Defaults ∧ RoundTrips Configuration ∧
      RoundTrips Cluster ∧ RoundTrips Layout ∧ RoundTrips LayoutType ∧
      RoundTrips ShardDefinition ∧ RoundTrips Shard ∧ RoundTrips Replica ∧ RoundTrips Deployment ∧
      RoundTrips Zone ∧ RoundTrips Fingerprint :=
  ⟨readsBack_installation.roundTrips, readsBack_spec.roundTrips, readsBack_defaults.roundTrips,
    readsBack_configuration.roundTrips, readsBack_cluster.roundTrips, readsBack_layout.roundTrips,
    readsBack_layoutType.roundTrips, readsBack_shardDefinition.roundTrips,
    readsBack_shard.roundTrips, readsBack_replica.roundTrips, readsBack_deployment.roundTrips,
    readsBack_zone.roundTrips, readsBack_fingerprint.roundTrips⟩

end ClusterTopology
