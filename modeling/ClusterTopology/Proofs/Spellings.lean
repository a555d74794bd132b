import Mathlib.Data.List.Perm.Basic
import ClusterTopology.Proofs.CanonicalTexts
import ClusterTopology.Proofs.Rewrites

/-!
# Spellings of installations

The parts of an installation have tables of their fields, and with these all the spellings
that their documents may have.  Labels may be given in any order.  In the place of a text, a
number, a flag or a variant there is nothing to rewrite but the order of members, if there are
any, and metadata is left as it is.

## Main definitions

* `Zone.entries` to `Installation.entries` — the tables of fields.

## Main results

* `respects_labels` — labels are read alike in every order.
* `readsAlike_resources` — **all spellings of a part of an installation are read alike.**
-/

namespace ClusterTopology

/-! ### Tables of fields -/

instance : Spelling String := ⟨Json.Reordered⟩

instance : Spelling Nat := ⟨Json.Reordered⟩

instance : Spelling Fingerprint := ⟨Json.Reordered⟩

instance : Spelling ReplicasUseFqdn := ⟨Json.Reordered⟩

instance : Spelling InternalReplication := ⟨Json.Reordered⟩

instance : Spelling LayoutType := ⟨Json.Reordered⟩

instance : Spelling ShardDefinition := ⟨Json.Reordered⟩

instance : Spelling Labels := ⟨Json.Reordered⟩

/-- Metadata stays as it is. -/
instance : Spelling Metadata := ⟨fun _ _ => False⟩

/-- The table of the fields of a zone. -/
def Zone.entries : List Entry := [.of (.defaulted "matchLabels" (.empty : Labels))]

instance : Spelling Zone := ⟨Rewrite Zone.entries⟩

/-- The table of the fields of a deployment. -/
def Deployment.entries : List Entry :=
  [.of (.setting "podTemplate"),
    .of (.setting "volumeClaimTemplate"),
    .of (.setting "scenario"),
    .of (.defaulted "zone" ({} : Zone)),
    .of (.optional "fingerprint" : Field (Option Fingerprint)),
    .of (.optional "index" : Field (Option Nat))]

instance : Spelling Deployment := ⟨Rewrite Deployment.entries⟩

/-- The table of the fields of a replica. -/
def Replica.entries : List Entry := [.of (.defaulted "deployment" ({} : Deployment))]

instance : Spelling Replica := ⟨Rewrite Replica.entries⟩

/-- The table of the fields of a shard. -/
def Shard.entries : List Entry :=
  [.of (.defaulted "definitionType" ShardDefinition.replicas),
    .of (.defaulted "replicasCount" (0 : Nat)),
    .of (.optional "internalReplication" : Field (Option InternalReplication)),
    .of (.defaulted "deployment" ({} : Deployment)),
    .of (.defaulted "replicas" ([] : List Replica))]

instance : Spelling Shard := ⟨Rewrite Shard.entries⟩

/-- The table of the fields of a layout. -/
def Layout.entries : List Entry :=
  [.of (.defaulted "type" LayoutType.standard),
    .of (.defaulted "shardsCount" (0 : Nat)),
    .of (.defaulted "replicasCount" (0 : Nat)),
    .of (.defaulted "shards" ([] : List Shard))]

instance : Spelling Layout := ⟨Rewrite Layout.entries⟩

/-- The table of the fields of a cluster. -/
def Cluster.entries : List Entry :=
  [.of (.defaulted "name" ""),
    .of (.defaulted "layout" ({} : Layout)),
    .of (.defaulted "deployment" ({} : Deployment))]

instance : Spelling Cluster := ⟨Rewrite Cluster.entries⟩

/-- The table of the fields of defaults. -/
def Defaults.entries : List Entry :=
  [.of (.optional "replicasUseFQDN" : Field (Option ReplicasUseFqdn)),
    .of (.defaulted "deployment" ({} : Deployment))]

instance : Spelling Defaults := ⟨Rewrite Defaults.entries⟩

/-- The table of the fields of a configuration. -/
def Configuration.entries : List Entry := [.of (.defaulted "clusters" ([] : List Cluster))]

instance : Spelling Configuration := ⟨Rewrite Configuration.entries⟩

/-- The table of the fields of a spec. -/
def Spec.entries : List Entry :=
  [.of (.defaulted "defaults" ({} : Defaults)),
    .of (.defaulted "configuration" ({} : Configuration))]

instance : Spelling Spec := ⟨Rewrite Spec.entries⟩

/-- The table of the fields of an installation, which are both required.  Its resource type is
not among them. -/
def Installation.entries : List Entry :=
  [.of (.required "metadata" : Field Metadata),
    .of (.required "spec" : Field Spec)]

instance : Spelling Installation := ⟨Rewrite Installation.entries⟩

/-! ### Texts, numbers and variants -/

theorem respects_string : Wire.Respects String := respects_of_none (fun _ => rfl) (fun _ => rfl)

theorem respects_nat : Wire.Respects Nat := respects_of_none (fun _ => rfl) (fun _ => rfl)

theorem respects_fingerprint : Wire.Respects Fingerprint :=
  respects_of_none (fun _ => rfl) (fun _ => rfl)

theorem respects_replicasUseFqdn : Wire.Respects ReplicasUseFqdn :=
  respects_of_none (fun _ => rfl) (fun _ => rfl)

theorem respects_internalReplication : Wire.Respects InternalReplication :=
  respects_of_none (fun _ => rfl) (fun _ => rfl)

theorem respects_layoutType : Wire.Respects LayoutType := respects_readVariant

theorem respects_shardDefinition : Wire.Respects ShardDefinition := respects_readVariant

theorem respects_metadata : Wire.Respects Metadata := fun _ _ => False.elim

/-! ### Labels -/

/-- The label that a member of an object stands for. -/
def labelOfMember (m : String × Json) : Except Fault (String × String) :=
  (Wire.decode m.2).map (m.1, ·)

theorem toOption_labelOfMember (m : String × Json) :
    (labelOfMember m).toOption = (Wire.value? String m.2).map (m.1, ·) :=
  toOption_map _ _

theorem decode_labels_obj_eq_ok_iff {members : List (String × Json)} {labels : Labels} :
    Wire.decode (.obj members) = .ok labels ↔
      ∃ texts, members.mapM labelOfMember = .ok texts ∧ SortedMap.ofList texts = labels := by
  change (members.mapM labelOfMember).map SortedMap.ofList = .ok labels ↔ _
  cases members.mapM labelOfMember <;> simp [Except.map]

/-- A label has the name of the member that it is read from. -/
theorem names_of_mapM_labelOfMember {members : List (String × Json)}
    {texts : List (String × String)}
    (h : List.Forall₂ (fun m text => labelOfMember m = .ok text) members texts) :
    members.map (·.1) = texts.map (·.1) := by
  rw [← List.forall₂_eq_eq_eq, List.forall₂_map_left_iff, List.forall₂_map_right_iff]
  refine h.imp fun m text htext => ?_
  unfold labelOfMember at htext
  cases hread : (Wire.decode m.2 : Except Fault String) with
  | error fault =>
    rw [hread] at htext
    cases htext
  | ok value =>
    rw [hread] at htext
    cases htext
    rfl

/-- Labels are the same in every order. -/
theorem decode_labels_of_perm {members members' : List (String × Json)}
    (hnames : (members.map (·.1)).Nodup) (h : members.Perm members') {labels : Labels}
    (hlabels : Wire.decode (.obj members) = .ok labels) :
    Wire.decode (.obj members') = .ok labels := by
  obtain ⟨texts, htexts, rfl⟩ := decode_labels_obj_eq_ok_iff.mp hlabels
  have hread := mapM_eq_ok_iff_forall₂.mp htexts
  obtain ⟨texts', hread', hperm⟩ := List.perm_comp_forall₂ h.symm hread
  rw [names_of_mapM_labelOfMember hread] at hnames
  exact decode_labels_obj_eq_ok_iff.mpr ⟨texts', mapM_eq_ok_iff_forall₂.mpr hread',
    (SortedMap.ofList_eq_of_perm hnames hperm.symm).symm⟩

theorem respects_labels : Wire.Respects Labels := by
  intro j j' h
  refine toOption_eq_iff.mpr fun labels => ?_
  cases h with
  | members hnames h =>
    have hnames' := (h.map _).nodup hnames
    exact ⟨decode_labels_of_perm hnames h, decode_labels_of_perm hnames' h.symm⟩
  | @member before after name j j' h =>
    have hlabel : (labelOfMember (name, j)).toOption = (labelOfMember (name, j')).toOption := by
      rw [toOption_labelOfMember, toOption_labelOfMember, respects_string _ _ h]
    have hlabels := toOption_eq_iff.mp (toOption_mapM_middle before after hlabel)
    simp only [decode_labels_obj_eq_ok_iff, hlabels]
  | element => rfl

/-! ### Parts of an installation -/

/-- A setting is read as a text that may be absent, but for an empty one. -/
theorem Entry.Respects.setting (name : String) : (Entry.of (.setting name)).Respects := by
  intro j j' h
  have hread := respects_option respects_string j j' h
  have hsetting : ∀ i, (Field.setting name).value? (some i) =
      (Wire.value? (Option String) i).map (Option.filter (! ·.isEmpty)) :=
    fun i => toOption_map _ (Wire.decode i : Except Fault (Option String))
  exact (hsetting j).trans ((congrArg _ hread).trans (hsetting j').symm)

theorem respects_zone : Wire.Respects Zone := by
  have h : Zone.fields.Respects Zone.entries :=
    Record.Respects.field (.defaulted respects_labels _ _) _
      |>.map _
  exact h.rewrite (of_decide_eq_true rfl)

theorem respects_deployment : Wire.Respects Deployment := by
  have h : Deployment.fields.Respects Deployment.entries :=
    Record.Respects.field (.setting _) _
      |>.map _
      |>.seq (.field (.setting _) _)
      |>.seq (.field (.setting _) _)
      |>.seq (.field (.defaulted respects_zone _ _) _)
      |>.seq (.field (.optional respects_fingerprint _) _)
      |>.seq (.field (.optional respects_nat _) _)
  exact h.rewrite (of_decide_eq_true rfl)

theorem respects_replica : Wire.Respects Replica := by
  have h : Replica.fields.Respects Replica.entries :=
    Record.Respects.field (.defaulted respects_deployment _ _) _
      |>.map _
  exact h.rewrite (of_decide_eq_true rfl)

theorem respects_shard : Wire.Respects Shard := by
  have h : Shard.fields.Respects Shard.entries :=
    Record.Respects.field (.defaulted respects_shardDefinition _ _) _
      |>.map _
      |>.seq (.field (.defaulted respects_nat _ _) _)
      |>.seq (.field (.optional respects_internalReplication _) _)
      |>.seq (.field (.defaulted respects_deployment _ _) _)
      |>.seq (.field (.defaulted (respects_list respects_replica) _ _) _)
  exact h.rewrite (of_decide_eq_true rfl)

theorem respects_layout : Wire.Respects Layout := by
  have h : Layout.fields.Respects Layout.entries :=
    Record.Respects.field (.defaulted respects_layoutType _ _) _
      |>.map _
      |>.seq (.field (.defaulted respects_nat _ _) _)
      |>.seq (.field (.defaulted respects_nat _ _) _)
      |>.seq (.field (.defaulted (respects_list respects_shard) _ _) _)
  exact h.rewrite (of_decide_eq_true rfl)

theorem respects_cluster : Wire.Respects Cluster := by
  have h : Cluster.fields.Respects Cluster.entries :=
    Record.Respects.field (.defaulted respects_string _ _) _
      |>.map _
      |>.seq (.field (.defaulted respects_layout _ _) _)
      |>.seq (.field (.defaulted respects_deployment _ _) _)
  exact h.rewrite (of_decide_eq_true rfl)

theorem respects_defaults : Wire.Respects Defaults := by
  have h : Defaults.fields.Respects Defaults.entries :=
    Record.Respects.field (.optional respects_replicasUseFqdn _) _
      |>.map _
      |>.seq (.field (.defaulted respects_deployment _ _) _)
  exact h.rewrite (of_decide_eq_true rfl)

theorem respects_configuration : Wire.Respects Configuration := by
  have h : Configuration.fields.Respects Configuration.entries :=
    Record.Respects.field (.defaulted (respects_list respects_cluster) _ _) _
      |>.map _
  exact h.rewrite (of_decide_eq_true rfl)

theorem respects_spec : Wire.Respects Spec := by
  have h : Spec.fields.Respects Spec.entries :=
    Record.Respects.field (.defaulted respects_defaults _ _) _
      |>.map _
      |>.seq (.field (.defaulted respects_configuration _ _) _)
  exact h.rewrite (of_decide_eq_true rfl)

theorem respects_installation : Wire.Respects Installation := by
  have h : Installation.fields.Respects Installation.entries :=
    Record.Respects.constant _ _
      |>.discard (.constant _ _)
      |>.discard (Record.Respects.field (.required respects_metadata _) _
          |>.map _
          |>.seq (.field (.required respects_spec _) _))
  exact h.rewrite (of_decide_eq_true rfl)

/-! ### All spellings -/

/-- **All spellings of a part of an installation are read alike.** -/
theorem readsAlike_resources :
    ReadsAlike Installation ∧ ReadsAlike Spec ∧ ReadsAlike Defaults ∧ ReadsAlike Configuration ∧
      ReadsAlike Cluster ∧ ReadsAlike Layout ∧ ReadsAlike Shard ∧ ReadsAlike Replica ∧
      ReadsAlike Deployment ∧ ReadsAlike Zone :=
  ⟨respects_installation.readsAlike, respects_spec.readsAlike, respects_defaults.readsAlike,
    respects_configuration.readsAlike, respects_cluster.readsAlike, respects_layout.readsAlike,
    respects_shard.readsAlike, respects_replica.readsAlike, respects_deployment.readsAlike,
    respects_zone.readsAlike⟩

namespace Cluster

/-- A cluster, given by an object in which there are a member that clusters do not have and a
deployment without settings. -/
def objectSample : Json :=
  .obj [("deployment", .obj [("scenario", .str "")]),
    ("layout", .obj [("shardsCount", .int 2), ("type", .str "Standard")]),
    ("replicas", .int 3),
    ("name", .str "c")]

/-- The same cluster, given by an array with an array in it. -/
def arraySample : Json := .arr [.str "c", .arr [.str "Standard", .int 2]]

theorem objectSample_eqvGen_arraySample :
    Relation.EqvGen (Spelling.rewrite Cluster) objectSample arraySample := by
  let layout : Json := .obj [("shardsCount", .int 2), ("type", .str "Standard")]
  let deployment : Json := .obj [("scenario", .str "")]
  have hunknown : Spelling.rewrite Cluster
      (.obj [("deployment", deployment), ("layout", layout), ("name", .str "c")]) objectSample :=
    Rewrite.unknown [("deployment", deployment), ("layout", layout)] [("name", .str "c")] _
      (of_decide_eq_true rfl)
  have hdefault : Spelling.rewrite Cluster (.obj [("layout", layout), ("name", .str "c")])
      (.obj [("deployment", deployment), ("layout", layout), ("name", .str "c")]) :=
    Rewrite.default [] _ (e := .of (.defaulted "deployment" ({} : Deployment)))
      (by simp [Cluster.entries]) (of_decide_eq_true rfl) ⟨{}, rfl, rfl⟩
  have hobject : Spelling.rewrite Cluster (.obj [("layout", layout), ("name", .str "c")])
      (.arr [.str "c", layout]) := by
    refine Rewrite.array (of_decide_eq_true rfl) ?_
    rintro (_ | _ | _ | i) e he <;> cases he <;> exact .inl rfl
  have hlayout : Spelling.rewrite Layout layout (.arr [.str "Standard", .int 2]) := by
    refine Rewrite.array (of_decide_eq_true rfl) ?_
    rintro (_ | _ | _ | _ | i) e he <;> cases he <;> exact .inl rfl
  have helement : Spelling.rewrite Cluster (.arr [.str "c", layout]) arraySample := by
    refine Rewrite.element [.str "c"] [] fun e he => ?_
    cases he
    exact hlayout
  exact (Relation.EqvGen.rel _ _ hunknown).symm
    |>.trans _ _ _ ((Relation.EqvGen.rel _ _ hdefault).symm)
    |>.trans _ _ _ (.rel _ _ hobject)
    |>.trans _ _ _ (.rel _ _ helement)

theorem readsAlike_resources_objectSample :
    Wire.decode arraySample = .ok { name := "c", layout := { shardsCount := 2 } : Cluster } := by
  obtain ⟨-, -, -, -, hcluster, -⟩ := readsAlike_resources
  exact (hcluster _ _ objectSample_eqvGen_arraySample _).mp rfl

end Cluster

end ClusterTopology
