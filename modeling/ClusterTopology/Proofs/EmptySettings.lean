import ClusterTopology.Proofs.CanonicalTexts
import ClusterTopology.Proofs.Changes
import ClusterTopology.Proofs.RoundTrips

/-!
# Empty settings in a normalization

A setting that is present and empty is as good as an absent one.  Where settings are
inherited, where the default scenario is filled in and where a deployment is hashed the two
are treated alike, and so a normalization commutes with the loss of empty settings: what it
makes of an installation that was saved and read again is what would be left of its own
result after saving and reading.

## Main results

* `Deployment.withoutEmpties_inherit`, `Deployment.canonical_withoutEmpties` — empty settings
  are neither inherited nor hashed in another way than absent ones.
* `Installation.normalize_withoutEmpties` — normalization commutes with the loss of empty
  settings.
* `Installation.normalize_reloaded` — **saving and reading again makes no difference to a
  normalization.**
-/

namespace ClusterTopology

/-! ### Deployments -/

theorem withoutEmpty_of_leavesOpen {setting : Option String} (h : leavesOpen setting = true) :
    withoutEmpty setting = none := by
  cases setting with
  | none => rfl
  | some s =>
    have hs : s = "" := String.isEmpty_iff.mp h
    rw [hs]
    rfl

theorem withoutEmpty_of_not_leavesOpen {setting : Option String}
    (h : ¬ leavesOpen setting = true) : withoutEmpty setting = setting := by
  rw [withoutEmpty_eq_self_iff]
  rintro rfl
  exact h rfl

/-- An empty setting is open like an absent one, and inherits the same. -/
theorem withoutEmpty_inherit (own defaults : Option String) :
    withoutEmpty (Layered.inherit own defaults) =
      Layered.inherit (withoutEmpty own) (withoutEmpty defaults) := by
  rw [inherit_option, inherit_option]
  by_cases h : leavesOpen own = true
  · rw [if_pos h, withoutEmpty_of_leavesOpen h, if_pos leavesOpen_none]
  · rw [if_neg h, withoutEmpty_of_not_leavesOpen h, if_neg h]

namespace Deployment

theorem withoutEmpties_inherit (own defaults : Deployment) :
    (own.inherit defaults).withoutEmpties =
      own.withoutEmpties.inherit defaults.withoutEmpties := by
  refine Deployment.ext ?_ ?_ ?_ rfl rfl rfl <;> exact withoutEmpty_inherit _ _

@[simp] theorem canonical_withoutEmpties (d : Deployment) :
    d.withoutEmpties.canonical = d.canonical := by
  unfold canonical withoutEmpties
  simp only [settingText_withoutEmpty]

/-- Empty settings are not told from absent ones anywhere. -/
theorem neutralChange_withoutEmpties : NeutralChange withoutEmpties withoutEmpties where
  empty := rfl
  inherit := withoutEmpties_inherit
  canonical := canonical_withoutEmpties
  stamp _ _ _ := rfl
  completed d := by
    have hscenario := withoutEmpty_inherit d.deployment.scenario (some defaultScenario)
    exact Deployment.ext rfl rfl hscenario.symm rfl rfl rfl

end Deployment

/-! ### Installations -/

namespace Installation

/-- **An installation without its empty settings is normalized to the normalized
installation without them**, with the same usage and the same events. -/
theorem normalize_withoutEmpties (x : Installation) :
    (withoutEmpties x).normalize = x.normalize.map withoutEmpties :=
  Deployment.neutralChange_withoutEmpties.normalize x

theorem replicaAt?_withoutEmpties (x : Installation) (i j k : Nat) :
    (withoutEmpties x).replicaAt? i j k = (x.replicaAt? i j k).map withoutEmpties :=
  x.replicaAt?_mapLevels Deployment.withoutEmpties Deployment.withoutEmpties i j k

/-- **Saving and reading again makes no difference to a normalization.**  An installation
that is saved can be read again, and normalizing what was read has the same usage, gives
the replica at each position the same fingerprint and index, and leaves what is read of
the normalized installation after saving that.  If the installation itself was read, then
the normalized one is read as it is, and normalizing it once more changes nothing. -/
theorem normalize_reloaded (x : Installation) :
    ∃ y y' : Installation, Wire.decode (Wire.write x) = .ok y ∧
      Wire.decode (Wire.write x.normalize.value) = .ok y' ∧
      y.normalize.usage = x.normalize.usage ∧
      (∀ i j k, (y.normalize.value.replicaAt? i j k).map
          (fun r => (r.deployment.fingerprint, r.deployment.index)) =
        (x.normalize.value.replicaAt? i j k).map
          (fun r => (r.deployment.fingerprint, r.deployment.index))) ∧
      y.normalize.value = y' ∧
      ∀ j : Json, Wire.decode j = .ok x →
        y' = x.normalize.value ∧ y'.normalize.value = y' ∧
          y'.normalize.usage = x.normalize.usage := by
  refine ⟨withoutEmpties x, withoutEmpties x.normalize.value, readsBack_installation.read_write x,
    readsBack_installation.read_write x.normalize.value, ?usage, ?stamps, ?tree, ?again⟩
  case usage => rw [normalize_withoutEmpties, Outcome.usage_map]
  case stamps =>
    intro i j k
    rw [normalize_withoutEmpties, Outcome.value_map, replicaAt?_withoutEmpties, Option.map_map]
    rfl
  case tree => rw [normalize_withoutEmpties, Outcome.value_map]
  case again =>
    intro j hj
    -- what was read has no empty settings, so it normalizes to what has none either
    have hx : withoutEmpties x = x := readsBack_installation.settle_of_read j x hj
    have hy : withoutEmpties x.normalize.value = x.normalize.value := by
      rw [← Outcome.value_map withoutEmpties, ← normalize_withoutEmpties, hx]
    rw [hy, normalize_normalize]
    exact ⟨rfl, rfl, rfl⟩

/-- An installation whose defaults name an empty pod template, above one cluster. -/
def emptyTemplateSample : Installation :=
  { spec := ⟨{ deployment := { podTemplate := some "" } }, ⟨[{}]⟩⟩ }

/-- A document of it. -/
def emptyTemplateDocument : Json :=
  let defaults := Json.obj [("deployment", .obj [("podTemplate", .str "")])]
  let configuration := Json.obj [("clusters", .arr [.obj []])]
  .obj [("metadata", .obj []),
    ("spec", .obj [("configuration", configuration), ("defaults", defaults)])]

theorem normalize_reloaded_emptyTemplateDocument :
    let f : Fingerprint := ⟨"d2061572c7a97dc3258aece890bbf3eff9f95ab084047ba67c1106e628f1809b"⟩
    (∃ (y y' : Installation) (r r' : Replica),
      Wire.decode (Wire.write emptyTemplateSample) = .ok y ∧ y ≠ emptyTemplateSample ∧
        Wire.decode (Wire.write emptyTemplateSample.normalize.value) = .ok y' ∧
        y.normalize.value = y' ∧ y.normalize.usage = emptyTemplateSample.normalize.usage ∧
        y.normalize.usage.toList = [(f, 1)] ∧
        emptyTemplateSample.normalize.value.replicaAt? 0 0 0 = some r ∧
        y'.replicaAt? 0 0 0 = some r' ∧
        r.deployment.podTemplate = some "" ∧ r'.deployment.podTemplate = none ∧
        (r.deployment.fingerprint, r.deployment.index) = (some f, some 0) ∧
        (r'.deployment.fingerprint, r'.deployment.index) = (some f, some 0)) ∧
      ∃ x : Installation, Wire.decode emptyTemplateDocument = .ok x ∧
        Wire.decode (Wire.write x.normalize.value) = .ok x.normalize.value ∧
        x.normalize.value.normalize.value = x.normalize.value ∧
        x.normalize.value.normalize.usage = x.normalize.usage ∧
        x.normalize.usage.toList = [(f, 1)] := by
  intro f
  let plain : Installation := { spec := ⟨{}, ⟨[{}]⟩⟩ }
  have hcounted : plain.normalize.usage.toList = [(f, 1)] := by decide +kernel
  refine ⟨?saved, ?read⟩
  case saved =>
    obtain ⟨y, y', hy, hy', husage, hstamps, htree, -⟩ := normalize_reloaded emptyTemplateSample
    have hplain : Wire.decode (Wire.write emptyTemplateSample) =
        (.ok plain : Except Fault Installation) := rfl
    obtain rfl : plain = y := Except.ok.inj (hplain.symm.trans hy)
    obtain ⟨r, hr, hpod, hstamped⟩ : ∃ r,
        emptyTemplateSample.normalize.value.replicaAt? 0 0 0 = some r ∧
          r.deployment.podTemplate = some "" ∧
          (r.deployment.fingerprint, r.deployment.index) = (some f, some 0) :=
      ⟨_, rfl, rfl, by decide +kernel⟩
    obtain ⟨r', hr', hpod'⟩ : ∃ r', plain.normalize.value.replicaAt? 0 0 0 = some r' ∧
        r'.deployment.podTemplate = none := ⟨_, rfl, rfl⟩
    have hsame := hstamps 0 0 0
    rw [hr, hr', Option.map_some, Option.map_some, Option.some_inj, hstamped] at hsame
    exact ⟨plain, y', r, r', hplain, by decide, hy', htree, husage, hcounted, hr, htree ▸ hr', hpod,
      hpod', hstamped, hsame⟩
  case read =>
    have hread : Wire.decode emptyTemplateDocument = (.ok plain : Except Fault Installation) := rfl
    obtain ⟨_, _, -, hsaved, -, -, -, hagain⟩ := normalize_reloaded plain
    obtain ⟨rfl, htree, husage⟩ := hagain _ hread
    exact ⟨plain, hread, hsaved, htree, husage, hcounted⟩

end Installation

end ClusterTopology
