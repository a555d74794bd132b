import Mathlib.Data.List.Infix
import Mathlib.Data.List.Nodup
import ClusterTopology.Deployment
import ClusterTopology.Proofs.Deployments

/-!
# Reading canonical texts

A canonical text is made of parts with separators between them, in which nothing is
escaped.  It is read back by taking it apart at its separators, and its labels at their
first equality signs.  What comes out is the variant of the deployment: its settings, where
those that were present and empty are absent, without its stamps.

This takes a condition on the texts.  A part comes to its end at the first separator only
if none begins inside of it, and the key of a label at the first equality sign only if it
has none.  Names and labels without colons, and keys without equality signs, are fine.

## Main definitions

* `Text.Separable` — no separator begins inside a text.
* `Text.split` — the parts of a text, between its separators.
* `Deployment.PlainTexts` — the parts of a canonical text can be read off.
* `Deployment.SameSettings`, `Deployment.variant` — what two deployments of one variant have
  in common.
* `Deployment.readCanonical` — the variant that a canonical text stands for.

## Main results

* `Text.split_of_append_separator` — separable parts are read off.
* `Deployment.readCanonical_canonical` — a plain deployment is read back, as its variant.
* `Deployment.canonical_eq_iff` — plain deployments of different variants have different
  canonical texts.
* `Deployment.canonical_decodes` — **canonical texts of names and labels are unambiguous.**
-/

namespace ClusterTopology

/-! ### Separated parts -/

namespace Text

/-- No separator begins inside the text, even if another separator follows it. -/
def Separable (cs : List Char) : Prop := ¬ [':', ':'] <:+: cs ++ [':']

instance : DecidablePred Separable := fun cs =>
  inferInstanceAs (Decidable (¬ [':', ':'] <:+: cs ++ [':']))

/-- The parts with a separator after each of them. -/
def terminated (parts : List (List Char)) : List Char := parts.flatMap (· ++ [':', ':'])

@[simp] theorem terminated_nil : terminated [] = [] := rfl

theorem terminated_cons (cs : List Char) (parts : List (List Char)) :
    terminated (cs :: parts) = cs ++ ':' :: ':' :: terminated parts := by
  unfold terminated
  rw [List.flatMap_cons, List.append_assoc]
  rfl

/-- The parts of a text, between its separators; of colons in a row the first ones count. -/
def split : List Char → List (List Char)
  | [] => [[]]
  | ':' :: ':' :: cs => [] :: split cs
  | c :: cs => (split cs).modifyHead (c :: ·)

@[simp] theorem split_nil : split [] = [[]] := by
  rw [split]

@[simp] theorem split_separator (cs : List Char) : split (':' :: ':' :: cs) = [] :: split cs := by
  rw [split]

/-- A text without a colon is separable. -/
theorem separable_of_notMem {cs : List Char} (h : ':' ∉ cs) : Separable cs := by
  intro hcolons
  have hcount := hcolons.sublist.count_le ':'
  rw [List.count_append, List.count_eq_zero_of_not_mem h] at hcount
  exact absurd hcount (by decide)

theorem Separable.tail {c : Char} {cs : List Char} (h : Separable (c :: cs)) : Separable cs := by
  intro hcolons
  exact h (hcolons.trans (List.suffix_cons c (cs ++ [':'])).isInfix)

/-- After a colon in a separable text there is something else. -/
theorem Separable.exists_cons {cs : List Char} (h : Separable (':' :: cs)) :
    ∃ d ds, cs = d :: ds ∧ d ≠ ':' := by
  cases cs with
  | nil => exact absurd (List.infix_refl [':', ':']) h
  | cons d ds =>
    refine ⟨d, ds, rfl, ?_⟩
    rintro rfl
    exact h ⟨[], ds ++ [':'], rfl⟩

theorem Separable.split_cons_append {c : Char} {cs : List Char} (h : Separable (c :: cs))
    (rest : List Char) :
    split (c :: (cs ++ rest)) = (split (cs ++ rest)).modifyHead (c :: ·) := by
  by_cases hc : c = ':'
  · subst hc
    obtain ⟨d, ds, rfl, hd⟩ := h.exists_cons
    rw [List.cons_append, split]
    rintro cs' - heq
    exact hd (List.cons.inj heq).1
  · rw [split]
    intro cs' hcolon
    exact absurd hcolon hc

/-- A separable text belongs to the first part, whatever follows it. -/
theorem Separable.split_append {cs : List Char} (h : Separable cs) (rest : List Char) :
    split (cs ++ rest) = (split rest).modifyHead (cs ++ ·) := by
  induction cs with
  | nil => exact (congrFun List.modifyHead_id (split rest)).symm
  | cons c cs ih =>
    rw [List.cons_append, h.split_cons_append, ih h.tail, List.modifyHead_modifyHead]
    rfl

theorem split_terminated_append {ps : List (List Char)} (hps : ∀ p ∈ ps, Separable p)
    (rest : List Char) : split (terminated ps ++ rest) = ps ++ split rest := by
  induction ps with
  | nil => rfl
  | cons p ps ih =>
    obtain ⟨hp, hps⟩ := List.forall_mem_cons.mp hps
    rw [terminated_cons, List.append_assoc, hp.split_append, List.cons_append, List.cons_append,
      split_separator, ih hps, List.modifyHead_cons, List.append_nil, List.cons_append]

/-- **Separable parts are read off** from the text that has separators between them. -/
theorem split_of_append_separator {cs : List Char} {ps : List (List Char)} (hne : ps ≠ [])
    (hps : ∀ p ∈ ps, Separable p) (h : cs ++ [':', ':'] = terminated ps) : split cs = ps := by
  obtain ⟨ps, p, rfl⟩ : ∃ init last, ps = init ++ [last] :=
    ⟨_, _, (List.dropLast_append_getLast hne).symm⟩
  have hlast : Separable p := hps p (List.mem_append_right ps (List.mem_singleton.mpr rfl))
  have hinit : ∀ q ∈ ps, Separable q := fun q hq => hps q (List.mem_append_left [p] hq)
  -- the last part has no separator after it
  have hcs : cs = terminated ps ++ p := by
    have happend : terminated (ps ++ [p]) = (terminated ps ++ p) ++ [':', ':'] := by
      unfold terminated
      rw [List.flatMap_append, List.flatMap_singleton, List.append_assoc]
    exact List.append_cancel_right (h.trans happend)
  have hpart : split p = [p] := by
    have hsplit := hlast.split_append []
    rwa [List.append_nil, split_nil, List.modifyHead_cons, List.append_nil] at hsplit
  rw [hcs, split_terminated_append hinit, hpart]

end Text

/-! ### Labels -/

namespace Deployment

/-- The characters of a label. -/
def labelChars (label : String × String) : List Char := label.1.toList ++ '=' :: label.2.toList

/-- The label that some characters stand for: its key ends at the first equality sign. -/
def readLabel (cs : List Char) : Option (String × String) :=
  match cs.span (· != '=') with
  | (key, _ :: value) => some (String.ofList key, String.ofList value)
  | (_, []) => none

theorem readLabel_labelChars {label : String × String} (h : '=' ∉ label.1.toList) :
    readLabel (labelChars label) = some label := by
  have hkey : ∀ c ∈ label.1.toList, (c != '=') = true := by
    intro c hc
    rw [bne_iff_ne]
    rintro rfl
    exact h hc
  have hspan : (labelChars label).span (· != '=') = (label.1.toList, '=' :: label.2.toList) := by
    unfold labelChars
    rw [List.span_eq_takeWhile_dropWhile, List.takeWhile_append_of_pos hkey,
      List.dropWhile_append_of_pos hkey]
    simp
  unfold readLabel
  rw [hspan]
  simp only [String.ofList_toList]

theorem mapM_readLabel {labels : List (String × String)} (h : ∀ l ∈ labels, '=' ∉ l.1.toList) :
    (labels.map labelChars).mapM readLabel = some labels := by
  induction labels with
  | nil => rfl
  | cons label labels ih =>
    obtain ⟨hlabel, hlabels⟩ := List.forall_mem_cons.mp h
    rw [List.map_cons, List.mapM_cons, readLabel_labelChars hlabel, ih hlabels]
    rfl

/-! ### Canonical texts -/

/-- The parts of the canonical text: the templates, the scenario, an empty part and the
labels. -/
def parts (d : Deployment) : List (List Char) :=
  (settingText d.podTemplate).toList :: (settingText d.volumeClaimTemplate).toList ::
    (settingText d.scenario).toList :: [] :: d.zone.matchLabels.toList.map labelChars

/-- Parts and keys end where they seem to end in the canonical text. -/
structure PlainTexts (d : Deployment) : Prop where
  /-- No separator begins inside a part. -/
  separable : ∀ part ∈ d.parts, Text.Separable part
  /-- No key of a label has an equality sign. -/
  keys : ∀ label ∈ d.zone.matchLabels.toList, '=' ∉ label.1.toList

instance : DecidablePred PlainTexts := fun d =>
  decidable_of_iff ((∀ part ∈ d.parts, Text.Separable part) ∧
      ∀ label ∈ d.zone.matchLabels.toList, '=' ∉ label.1.toList)
    ⟨fun h => ⟨h.1, h.2⟩, fun h => ⟨h.separable, h.keys⟩⟩

/-- The deployments are the same variant: their settings are equal, where an absent text
is as good as an empty one. -/
structure SameSettings (d e : Deployment) : Prop where
  /-- They have the same pod template. -/
  podTemplate : settingText d.podTemplate = settingText e.podTemplate
  /-- They have the same volume claim template. -/
  volumeClaimTemplate : settingText d.volumeClaimTemplate = settingText e.volumeClaimTemplate
  /-- They have the same scenario. -/
  scenario : settingText d.scenario = settingText e.scenario
  /-- They have the same zone. -/
  zone : d.zone = e.zone

instance : DecidableRel SameSettings := fun d e =>
  decidable_of_iff (settingText d.podTemplate = settingText e.podTemplate ∧
      settingText d.volumeClaimTemplate = settingText e.volumeClaimTemplate ∧
      settingText d.scenario = settingText e.scenario ∧ d.zone = e.zone)
    ⟨fun h => ⟨h.1, h.2.1, h.2.2.1, h.2.2.2⟩,
      fun h => ⟨h.podTemplate, h.volumeClaimTemplate, h.scenario, h.zone⟩⟩

/-- The variant of a deployment: its settings, absent where they are empty, without its
stamps. -/
def variant (d : Deployment) : Deployment :=
  { d.withoutEmpties with fingerprint := none, index := none }

/-- The variant that a canonical text stands for. -/
def readCanonical (text : String) : Option Deployment :=
  match Text.split text.toList with
  | pod :: volume :: scenario :: [] :: labels => do
    let entries ← labels.mapM readLabel
    some {
      podTemplate := withoutEmpty (some (String.ofList pod))
      volumeClaimTemplate := withoutEmpty (some (String.ofList volume))
      scenario := withoutEmpty (some (String.ofList scenario))
      zone := ⟨.ofList entries⟩ }
  | _ => none

theorem withoutEmpty_settingText (setting : Option String) :
    withoutEmpty (some (settingText setting)) = withoutEmpty setting := by
  cases setting <;> rfl

@[simp] theorem settingText_withoutEmpty (setting : Option String) :
    settingText (withoutEmpty setting) = settingText setting := by
  by_cases h : setting = some ""
  · subst h
    rfl
  · rw [withoutEmpty_eq_self_iff.mpr h]

theorem settingText_eq_iff {s t : Option String} :
    settingText s = settingText t ↔ withoutEmpty s = withoutEmpty t := by
  constructor
  · intro h
    rw [← withoutEmpty_settingText s, h, withoutEmpty_settingText]
  · intro h
    rw [← settingText_withoutEmpty s, h, settingText_withoutEmpty]

theorem variant_eq_iff {d e : Deployment} : d.variant = e.variant ↔ d.SameSettings e := by
  unfold variant withoutEmpties
  rw [Deployment.mk.injEq, ← settingText_eq_iff, ← settingText_eq_iff, ← settingText_eq_iff]
  constructor
  · rintro ⟨hpod, hvolume, hscenario, hzone, -, -⟩
    exact ⟨hpod, hvolume, hscenario, hzone⟩
  · intro h
    exact ⟨h.podTemplate, h.volumeClaimTemplate, h.scenario, h.zone, rfl, rfl⟩

theorem toList_labelText (label : String × String) :
    (labelText label).toList = ':' :: ':' :: labelChars label := by
  unfold labelText labelChars separator
  rw [String.toList_append, String.toList_append, String.toList_append, List.append_assoc]
  rfl

theorem flatMap_labelText_append (labels : List (String × String)) :
    labels.flatMap (fun label => (labelText label).toList) ++ [':', ':'] =
      ':' :: ':' :: Text.terminated (labels.map labelChars) := by
  induction labels with
  | nil => rfl
  | cons label labels ih =>
    rw [List.flatMap_cons, List.append_assoc, ih, toList_labelText, List.map_cons,
      Text.terminated_cons]
    rfl

/-- The canonical text and one more separator are the parts, each with a separator. -/
theorem toList_canonical_append (d : Deployment) :
    d.canonical.toList ++ [':', ':'] = Text.terminated d.parts := by
  have hseparator : separator.toList = [':', ':'] := rfl
  unfold canonical parts
  simp only [String.toList_append, String.toList_join, List.flatMap_map, hseparator,
    List.append_assoc, flatMap_labelText_append, Text.terminated_cons, List.nil_append,
    List.cons_append]

/-- **A plain deployment is read back**, as its variant. -/
theorem readCanonical_canonical {d : Deployment} (h : d.PlainTexts) :
    readCanonical d.canonical = some d.variant := by
  have hsplit : Text.split d.canonical.toList = d.parts :=
    Text.split_of_append_separator (List.cons_ne_nil _ _) h.separable d.toList_canonical_append
  unfold readCanonical
  rw [hsplit]
  unfold parts
  simp only [mapM_readLabel h.keys, String.ofList_toList, withoutEmpty_settingText,
    Option.bind_eq_bind, Option.bind_some, SortedMap.ofList_toList]
  rfl

/-- **Plain deployments of different variants have different canonical texts.** -/
theorem canonical_eq_iff {d e : Deployment} (hd : d.PlainTexts) (he : e.PlainTexts) :
    d.canonical = e.canonical ↔ d.SameSettings e := by
  constructor
  · intro h
    have hread : some d.variant = some e.variant := by
      rw [← readCanonical_canonical hd, h, readCanonical_canonical he]
    exact variant_eq_iff.mp (Option.some.inj hread)
  · intro h
    unfold canonical
    rw [h.podTemplate, h.volumeClaimTemplate, h.scenario, h.zone]

/-! ### Names and labels -/

/-- The deployment has no colon in any text and no equality sign in the key of a label, as
is the case with names of resources and labels of nodes. -/
structure HasNames (d : Deployment) : Prop where
  /-- There is no colon in the name of the pod template. -/
  podTemplate : ':' ∉ (settingText d.podTemplate).toList
  /-- There is no colon in the name of the volume claim template. -/
  volumeClaimTemplate : ':' ∉ (settingText d.volumeClaimTemplate).toList
  /-- There is no colon in the scenario. -/
  scenario : ':' ∉ (settingText d.scenario).toList
  /-- There is no colon in the key or the value of a label. -/
  labels : ∀ label ∈ d.zone.matchLabels.toList, ':' ∉ label.1.toList ∧ ':' ∉ label.2.toList
  /-- There is no equality sign in the key of a label. -/
  keys : ∀ label ∈ d.zone.matchLabels.toList, '=' ∉ label.1.toList

instance : DecidablePred HasNames := fun d =>
  decidable_of_iff (':' ∉ (settingText d.podTemplate).toList ∧
      ':' ∉ (settingText d.volumeClaimTemplate).toList ∧ ':' ∉ (settingText d.scenario).toList ∧
      (∀ label ∈ d.zone.matchLabels.toList, ':' ∉ label.1.toList ∧ ':' ∉ label.2.toList) ∧
      ∀ label ∈ d.zone.matchLabels.toList, '=' ∉ label.1.toList)
    ⟨fun h => ⟨h.1, h.2.1, h.2.2.1, h.2.2.2.1, h.2.2.2.2⟩,
      fun h => ⟨h.podTemplate, h.volumeClaimTemplate, h.scenario, h.labels, h.keys⟩⟩

theorem HasNames.plainTexts {d : Deployment} (h : d.HasNames) : d.PlainTexts := by
  refine ⟨?_, h.keys⟩
  intro part hpart
  apply Text.separable_of_notMem
  unfold parts at hpart
  simp only [List.mem_cons, List.mem_map] at hpart
  rcases hpart with rfl | rfl | rfl | rfl | ⟨label, hlabel, rfl⟩
  · exact h.podTemplate
  · exact h.volumeClaimTemplate
  · exact h.scenario
  · exact List.not_mem_nil
  · unfold labelChars
    rw [List.mem_append, List.mem_cons, not_or, not_or]
    obtain ⟨hkey, hvalue⟩ := h.labels label hlabel
    exact ⟨hkey, by decide, hvalue⟩

end Deployment

/-- Pairs with different keys make the same map in every order. -/
theorem SortedMap.ofList_eq_of_perm {κ β : Type} [LT κ] [LE κ] [DecidableEq κ] [DecidableLT κ]
    [Std.IsLinearOrder κ] [Std.LawfulOrderLT κ] {ps qs : List (κ × β)}
    (hkeys : (ps.map (·.1)).Nodup) (h : ps.Perm qs) : ofList ps = ofList qs := by
  refine h.foldl_eq' ?_ empty
  intro e he e' he' m
  by_cases hkey : e.1 = e'.1
  · rw [List.inj_on_of_nodup_map hkeys he he' hkey]
  · exact insert_comm m hkey e.2 e'.2

namespace Deployment

/-- **Canonical texts of names and labels are unambiguous.**  Two deployments have the same
canonical text exactly if they are of one variant, whatever their stamps are, and the
canonical text is read back as this variant.  The order in which labels are given does not
matter. -/
theorem canonical_decodes {d e : Deployment} (hd : d.HasNames) (he : e.HasNames) :
    (d.canonical = e.canonical ↔ d.SameSettings e) ∧
      readCanonical d.canonical = some d.variant ∧
      ∀ labels labels' : List (String × String), (labels.map (·.1)).Nodup → labels.Perm labels' →
        canonical { d with zone := ⟨.ofList labels⟩ } =
          canonical { d with zone := ⟨.ofList labels'⟩ } := by
  refine ⟨canonical_eq_iff hd.plainTexts he.plainTexts, readCanonical_canonical hd.plainTexts, ?_⟩
  intro labels labels' hkeys hperm
  rw [SortedMap.ofList_eq_of_perm hkeys hperm]

/-- A deployment with labels, of which one has an empty key and an equality sign in its value,
and another one an empty value. -/
def labelledSample (pod : Option String) (index : Nat) : Deployment :=
  { podTemplate := pod, zone := ⟨.ofList [("k", ""), ("", "=")]⟩, index := some index }

theorem canonical_decodes_labelledSample :
    (labelledSample none 0).HasNames ∧ (labelledSample (some "") 1).HasNames ∧
      (labelledSample none 0).canonical = (labelledSample (some "") 1).canonical ∧
      (readCanonical (labelledSample (some "") 1).canonical).map (·.podTemplate) = some none ∧
      canonical { zone := ⟨.ofList [("k", ""), ("", "=")]⟩ } =
        canonical { zone := ⟨.ofList [("", "="), ("k", "")]⟩ } := by
  have habsent : (labelledSample none 0).HasNames := by decide +kernel
  have hempty : (labelledSample (some "") 1).HasNames := by decide +kernel
  obtain ⟨hiff, -, -⟩ := canonical_decodes habsent hempty
  obtain ⟨-, hread, -⟩ := canonical_decodes hempty habsent
  obtain ⟨-, -, horder⟩ := canonical_decodes (d := {}) (e := {}) (by decide) (by decide)
  refine ⟨habsent, hempty, hiff.mpr (by decide +kernel), ?_, ?_⟩
  · rw [hread]
    rfl
  · exact horder _ _ (by decide) (List.Perm.swap _ _ [])

end Deployment

end ClusterTopology
