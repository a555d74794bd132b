import Mathlib.Data.Finset.Image
import ClusterTopology.Proofs.Naming

/-!
# Short IDs

A short ID is the part of a fingerprint that is left after its first bytes.  Every
fingerprint of a normalized installation is a digest, all of whose characters are single
bytes, so its short ID is its last ten digits.  What is cut off may be all that told two
digests apart.  The check of short IDs finds out whether this has happened: since every
fingerprint in use has a replica with index zero, two fingerprints with one short ID are
also two replicas with one ID.

## Main results

* `Text.suffixOfSize?_eq_some_iff` — the last bytes of a text are its suffix of that size.
* `Fingerprint.shortId_eq_drop` — of characters of one byte, the last ten are the short ID.
* `Scope.exists_shortId_fingerprint` — the short ID of a digest is its last ten digits.
* `Installation.checkShortIds_eq_ok_iff_forall` — the check finds every repeated ID.
* `Installation.checkShortIds_exact` — **the check passes exactly if IDs can be trusted.**
-/

namespace ClusterTopology

/-! ### The last bytes of a text -/

namespace Text

theorem size_append (cs ds : List Char) : size (cs ++ ds) = size cs + size ds := by
  induction cs with
  | nil => rw [List.nil_append, size_nil, Nat.zero_add]
  | cons c cs ih => rw [List.cons_append, size_cons, size_cons, ih, Nat.add_assoc]

theorem size_le_of_suffix {cs ds : List Char} (h : ds <:+ cs) : size ds ≤ size cs := by
  obtain ⟨es, rfl⟩ := h
  rw [size_append]
  omega

theorem suffixOfSize?_eq_some_iff {n : Nat} {cs ds : List Char} :
    suffixOfSize? n cs = some ds ↔ ds <:+ cs ∧ size ds = n := by
  induction cs with
  | nil =>
    rw [suffixOfSize?, List.suffix_nil]
    constructor
    · intro h
      split at h
      · next hn =>
        obtain rfl := Option.some.inj h
        exact ⟨rfl, hn.symm⟩
      · cases h
    · rintro ⟨rfl, hn⟩
      exact if_pos hn.symm
  | cons c cs ih =>
    rw [suffixOfSize?, List.suffix_cons_iff]
    by_cases hsize : size (c :: cs) = n
    · rw [if_pos hsize]
      constructor
      · intro h
        obtain rfl := Option.some.inj h
        exact ⟨Or.inl rfl, hsize⟩
      · rintro ⟨rfl | hsuffix, hds⟩
        · rfl
        · -- every character takes up a byte, so a shorter suffix is smaller
          have hle := size_le_of_suffix hsuffix
          have hpos := c.utf8Size_pos
          rw [size_cons] at hsize
          omega
    · rw [if_neg hsize, ih]
      constructor
      · rintro ⟨hsuffix, hds⟩
        exact ⟨Or.inr hsuffix, hds⟩
      · rintro ⟨rfl | hsuffix, hds⟩
        · exact absurd hds hsize
        · exact ⟨hsuffix, hds⟩

theorem size_eq_length {cs : List Char} (h : ∀ c ∈ cs, c.utf8Size = 1) : size cs = cs.length := by
  induction cs with
  | nil => rfl
  | cons c cs ih =>
    obtain ⟨hc, hcs⟩ := List.forall_mem_cons.mp h
    rw [size_cons, hc, ih hcs, List.length_cons, Nat.add_comm]

end Text

/-! ### Short IDs of digests -/

theorem Sha256.utf8Size_of_isHexDigit {c : Char} (h : isHexDigit c = true) : c.utf8Size = 1 := by
  have hle : c ≤ 'f' := by
    unfold isHexDigit at h
    rw [Char.isDigit, Bool.or_eq_true, Bool.and_eq_true, Bool.and_eq_true] at h
    rcases h with ⟨-, hdigit⟩ | ⟨-, hletter⟩
    · have hnine : c ≤ '9' := of_decide_eq_true hdigit
      exact Char.le_trans hnine (by decide)
    · exact of_decide_eq_true hletter
  rw [Char.utf8Size_eq_one_iff]
  exact UInt32.le_trans hle (by decide)

/-- If every character is a single byte, then the last bytes are the last characters. -/
theorem Fingerprint.shortId_eq_drop {f : Fingerprint}
    (hbytes : ∀ c ∈ f.text.toList, c.utf8Size = 1)
    (hlength : shortIdSize ≤ f.text.toList.length) :
    f.shortId = String.ofList (f.text.toList.drop (f.text.toList.length - shortIdSize)) := by
  let last := f.text.toList.drop (f.text.toList.length - shortIdSize)
  have hsuffix : last <:+ f.text.toList := List.drop_suffix _ _
  have hsize : Text.size last = shortIdSize := by
    rw [Text.size_eq_length fun c hc => hbytes c (hsuffix.subset hc), List.length_drop,
      Nat.sub_sub_self hlength]
  unfold shortId
  rw [Text.suffixOfSize?_eq_some_iff.mpr ⟨hsuffix, hsize⟩]
  rfl

namespace Scope

variable (scope : Scope)

/-- The short ID of a digest is its last ten digits. -/
theorem exists_shortId_fingerprint (d : Deployment) :
    ∃ digits, digits <:+ (scope.fingerprint d).text.toList ∧ digits.length = 10 ∧
      (scope.fingerprint d).shortId = String.ofList digits := by
  let digest := (scope.fingerprint d).text.toList
  have hlength : digest.length = 64 := Sha256.length_hexDigest _
  have hbytes : ∀ c ∈ digest, c.utf8Size = 1 := fun c hc =>
    Sha256.utf8Size_of_isHexDigit (Sha256.isHexDigit_of_mem_hexDigest hc)
  have hshort : Fingerprint.shortIdSize ≤ digest.length := by
    rw [hlength]
    decide
  refine ⟨_, List.drop_suffix _ digest, ?_, Fingerprint.shortId_eq_drop hbytes hshort⟩
  rw [List.length_drop, hlength]
  rfl

/-- The fingerprints of a cluster are digests of deployments. -/
theorem exists_fingerprint_of_mem {cluster : Cluster} {f : Fingerprint}
    (h : f ∈ scope.fingerprints cluster) : ∃ d, f = scope.fingerprint d := by
  obtain ⟨shard, -, hf⟩ := List.mem_flatMap.mp h
  obtain ⟨replica, -, rfl⟩ := List.mem_map.mp hf
  exact ⟨_, rfl⟩

end Scope

/-! ### The check of a normalized installation -/

theorem length_dedup_map_eq {α β γ : Type} [DecidableEq β] [DecidableEq γ] {f : α → β} {g : α → γ}
    {items : List α} (h : ∀ a ∈ items, ∀ b ∈ items, f a = f b ↔ g a = g b) :
    (items.map f).dedup.length = (items.map g).dedup.length := by
  induction items with
  | nil => rfl
  | cons a items ih =>
    have htail := ih fun b hb c hc =>
      h b (List.mem_cons_of_mem a hb) c (List.mem_cons_of_mem a hc)
    have hmem : f a ∈ items.map f ↔ g a ∈ items.map g := by
      rw [List.mem_map, List.mem_map]
      refine exists_congr fun b => and_congr_right fun hb => ?_
      exact h b (List.mem_cons_of_mem a hb) a List.mem_cons_self
    rw [List.map_cons, List.map_cons]
    by_cases hf : f a ∈ items.map f
    · rw [List.dedup_cons_of_mem hf, List.dedup_cons_of_mem (hmem.mp hf), htail]
    · rw [List.dedup_cons_of_notMem hf, List.dedup_cons_of_notMem (mt hmem.mpr hf),
        List.length_cons, List.length_cons, htail]

theorem Replica.stamps?_eq_iff {r s : Replica} (hr : r.stamps?.isSome) (hs : s.stamps?.isSome) :
    r.stamps? = s.stamps? ↔ r.deployment.fingerprint = s.deployment.fingerprint ∧
      r.deployment.index = s.deployment.index := by
  obtain ⟨⟨f, i⟩, hfi⟩ := Option.isSome_iff_exists.mp hr
  obtain ⟨⟨g, j⟩, hgj⟩ := Option.isSome_iff_exists.mp hs
  obtain ⟨hf, hi⟩ := stamps?_eq_some_iff.mp hfi
  obtain ⟨hg, hj⟩ := stamps?_eq_some_iff.mp hgj
  rw [hfi, hgj, hf, hi, hg, hj, Option.some.injEq, Option.some.injEq, Option.some.injEq,
    Prod.mk.injEq]

namespace Installation

/-- The fingerprints in use are digests of deployments. -/
theorem exists_fingerprint_of_mem_usage {x : Installation} {f : Fingerprint}
    (h : f ∈ x.normalize.usage) : ∃ d, f = x.completedScope.fingerprint d := by
  rw [usage_normalize, Usage.mem_foldl_sup] at h
  rcases h with h | ⟨cluster, -, h⟩
  · exact absurd h (Usage.notMem_empty f)
  · rw [Scope.usage_normalize_eq, Usage.mem_addAll] at h
    exact x.completedScope.exists_fingerprint_of_mem (h.resolve_left (Usage.notMem_empty f))

/-- A fingerprint in use has a replica with index zero. -/
theorem exists_stamps_zero {x : Installation} {f : Fingerprint} (h : f ∈ x.normalize.usage) :
    ∃ p ∈ x.normalize.value.replicas, p.replica.stamps? = some (f, 0) :=
  List.mem_map.mp (mem_stamps_normalize.mpr (mem_usage_normalize.mp h))

theorem nodup_stamps_of_mem {x : Installation} {cluster : Cluster}
    (h : cluster ∈ x.normalize.value.clusters) : cluster.stamps.Nodup := by
  rw [clusters_normalize] at h
  obtain ⟨own, -, rfl⟩ := List.mem_map.mp h
  exact x.completedScope.nodup_stamps_normalize own

/-- The check finds every repeated ID, and nothing else. -/
theorem checkShortIds_eq_ok_iff_forall (x : Installation) :
    x.normalize.usage.checkShortIds = .ok () ↔
      ∀ p ∈ x.normalize.value.replicas, ∀ q ∈ x.normalize.value.replicas,
        p.replica.deploymentId = q.replica.deploymentId →
          p.replica.deployment.fingerprint = q.replica.deployment.fingerprint := by
  constructor
  · intro h p hp q hq hid
    have hstamps := (deploymentId_eq_iff h hp hq).mp hid
    obtain ⟨f, -, i, hpi, -⟩ := exists_deploymentId hp
    have hqi : q.replica.stamps? = some (f, i) := hstamps ▸ hpi
    rw [(Replica.stamps?_eq_some_iff.mp hpi).1, (Replica.stamps?_eq_some_iff.mp hqi).1]
  · intro h
    rw [Usage.checkShortIds_eq_ok_iff]
    intro f hf g hg hshort
    -- the replicas of both fingerprints with index zero have the same ID
    obtain ⟨p, hp, hpf⟩ := exists_stamps_zero hf
    obtain ⟨q, hq, hqg⟩ := exists_stamps_zero hg
    have hid : p.replica.deploymentId = q.replica.deploymentId := by
      rw [Replica.deploymentId_of_stamps? hpf, Replica.deploymentId_of_stamps? hqg,
        deploymentIdOf_inj.mpr ⟨hshort, rfl⟩]
    have hfg := h p hp q hq hid
    rw [(Replica.stamps?_eq_some_iff.mp hpf).1, (Replica.stamps?_eq_some_iff.mp hqg).1] at hfg
    exact Option.some.inj hfg

/-- The ID of a replica is made of the last ten digits of its fingerprint and its index. -/
theorem exists_deploymentId_digits {x : Installation} {p : PlacedReplica}
    (hp : p ∈ x.normalize.value.replicas) :
    ∃ (f : Fingerprint) (digits : List Char) (i : Nat),
      p.replica.deployment.fingerprint = some f ∧ p.replica.deployment.index = some i ∧
      digits <:+ f.text.toList ∧ digits.length = 10 ∧
      (∀ c ∈ digits, Sha256.isHexDigit c = true) ∧
      p.replica.deploymentId = .ok (String.ofList digits ++ "-" ++ toString i) := by
  obtain ⟨f, hf, i, hs, hid⟩ := exists_deploymentId hp
  obtain ⟨hpf, hpi⟩ := Replica.stamps?_eq_some_iff.mp hs
  obtain ⟨d, rfl⟩ := exists_fingerprint_of_mem_usage hf
  obtain ⟨digits, hsuffix, hlength, hshort⟩ := x.completedScope.exists_shortId_fingerprint d
  refine ⟨_, digits, i, hpf, hpi, hsuffix, hlength, ?_, ?_⟩
  · intro c hc
    exact Sha256.isHexDigit_of_mem_hexDigest (hsuffix.subset hc)
  · rw [hid, deploymentIdOf, hshort]

/-- **The check passes exactly if IDs can be trusted.**  Every replica has an ID, ten
hexadecimal digits of its fingerprint and its index.  The check passes if and only if
replicas with the same ID, in whatever clusters, have the same fingerprint.  IDs then tell
apart what stamps tell apart, which is all replicas of a cluster, and there are as many of
them as the installation needs instances. -/
theorem checkShortIds_exact (x : Installation) :
    (∀ p ∈ x.normalize.value.replicas, ∃ (f : Fingerprint) (digits : List Char) (i : Nat),
      p.replica.deployment.fingerprint = some f ∧ p.replica.deployment.index = some i ∧
      digits <:+ f.text.toList ∧ digits.length = 10 ∧
      (∀ c ∈ digits, Sha256.isHexDigit c = true) ∧
      p.replica.deploymentId = .ok (String.ofList digits ++ "-" ++ toString i)) ∧
    (x.normalize.usage.checkShortIds = .ok () ↔
      ∀ p ∈ x.normalize.value.replicas, ∀ q ∈ x.normalize.value.replicas,
        p.replica.deploymentId = q.replica.deploymentId →
          p.replica.deployment.fingerprint = q.replica.deployment.fingerprint) ∧
    (x.normalize.usage.checkShortIds = .ok () →
      (∀ p ∈ x.normalize.value.replicas, ∀ q ∈ x.normalize.value.replicas,
        p.replica.deploymentId = q.replica.deploymentId ↔
          p.replica.deployment.fingerprint = q.replica.deployment.fingerprint ∧
            p.replica.deployment.index = q.replica.deployment.index) ∧
      (∀ cluster ∈ x.normalize.value.clusters, cluster.deploymentIds.Nodup) ∧
      x.normalize.value.deploymentIds.dedup.length = x.normalize.usage.total) := by
  refine ⟨fun p hp => exists_deploymentId_digits hp, x.checkShortIds_eq_ok_iff_forall, ?_⟩
  intro h
  refine ⟨?same, ?cluster, ?number⟩
  case same =>
    intro p hp q hq
    have hstamped : ∀ r ∈ x.normalize.value.replicas, r.replica.stamps?.isSome := by
      intro r hr
      obtain ⟨f, -, i, hs, -⟩ := exists_deploymentId hr
      exact Option.isSome_iff_exists.mpr ⟨_, hs⟩
    rw [deploymentId_eq_iff h hp hq, Replica.stamps?_eq_iff (hstamped p hp) (hstamped q hq)]
  case cluster =>
    intro cluster hcluster
    have hsub : cluster.replicas ⊆ x.normalize.value.replicas := fun p hp =>
      List.mem_flatMap_of_mem hcluster hp
    exact (nodup_map_deploymentId h hsub).mpr (nodup_stamps_of_mem hcluster)
  case number =>
    rw [total_normalize]
    exact length_dedup_map_eq fun p hp q hq => deploymentId_eq_iff h hp hq

theorem checkShortIds_exact_twinSample :
    twinSample.normalize.usage.checkShortIds = .ok () ∧
      twinSample.normalize.value.deploymentIds.length = 2 ∧
      twinSample.normalize.value.deploymentIds.dedup.length = 1 := by
  have htotal : twinSample.normalize.usage.total = 1 := by decide +kernel
  have hnumber := ((checkShortIds_exact twinSample).2.2 checkShortIds_twinSample).2.2
  exact ⟨checkShortIds_twinSample, by decide +kernel, hnumber.trans htotal⟩

end Installation

end ClusterTopology
