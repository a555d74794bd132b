import ClusterTopology.Proofs.ShortIds

/-!
# Short IDs of arbitrary fingerprints

A fingerprint that is read from a document may be any text, not only a digest.  Its short ID
is cut off by bytes, and so it is the last ten bytes only if these begin with a character;
otherwise nothing is cut off.  A short ID may hold dashes and digits of its own.  Still an ID
can be taken apart, since the index after the last dash holds none.

## Main definitions

* `Fingerprint.EndsInShortId` — the last ten bytes begin with a character.

## Main results

* `Fingerprint.endsInShortId_iff` — this is so if the text has a last part of ten bytes.
* `Fingerprint.shortId_eq_of_append` — that part is the short ID.
* `Fingerprint.shortId_eq_text` — otherwise the short ID is the whole text.
* `deploymentId_eq_iff_lastBytes` — **IDs of any replicas are read by their last bytes and
  their index.**
-/

namespace ClusterTopology

namespace Text

theorem size_eq_utf8ByteSize (cs : List Char) : size cs = (String.ofList cs).utf8ByteSize := by
  induction cs with
  | nil => rfl
  | cons c cs ih =>
    rw [size_cons, ih, String.ofList_cons, String.utf8ByteSize_append,
      String.utf8ByteSize_singleton]

/-- The last bytes of a text are its last part of that size. -/
theorem suffixOfSize?_toList_eq_some_iff {n : Nat} {s last : String} :
    suffixOfSize? n s.toList = some last.toList ↔
      (∃ before, s = before ++ last) ∧ last.utf8ByteSize = n := by
  rw [suffixOfSize?_eq_some_iff, size_eq_utf8ByteSize, String.ofList_toList]
  refine and_congr_left fun _ => ?_
  constructor
  · rintro ⟨cs, hcs⟩
    refine ⟨String.ofList cs, ?_⟩
    rw [← String.toList_inj, String.toList_append, String.toList_ofList, hcs]
  · rintro ⟨before, rfl⟩
    rw [String.toList_append]
    exact List.suffix_append before.toList last.toList

/-- An ASCII character is a single byte. -/
theorem utf8Size_of_toNat_lt {c : Char} (h : c.toNat < 128) : c.utf8Size = 1 := by
  rw [Char.utf8Size_eq_one_iff, UInt32.le_iff_toNat_le]
  exact Nat.le_of_lt_succ h

end Text

namespace Fingerprint

/-! ### The last ten bytes -/

/-- The fingerprint has ten bytes or more, and the last ten begin with a character. -/
def EndsInShortId (f : Fingerprint) : Prop :=
  10 ≤ f.text.utf8ByteSize ∧
    (⟨f.text.utf8ByteSize - 10⟩ : String.Pos.Raw).IsValid f.text

instance : DecidablePred EndsInShortId := fun f =>
  inferInstanceAs (Decidable (10 ≤ f.text.utf8ByteSize ∧
    (⟨f.text.utf8ByteSize - 10⟩ : String.Pos.Raw).IsValid f.text))

theorem endsInShortId_iff {f : Fingerprint} :
    f.EndsInShortId ↔ ∃ before last, f.text = before ++ last ∧ last.utf8ByteSize = 10 := by
  unfold EndsInShortId
  rw [String.Pos.Raw.isValid_iff_exists_append]
  constructor
  · rintro ⟨hsize, before, last, htext, hcut⟩
    have hbefore : f.text.utf8ByteSize - 10 = before.utf8ByteSize :=
      congrArg String.Pos.Raw.byteIdx hcut
    refine ⟨before, last, htext, ?_⟩
    rw [htext, String.utf8ByteSize_append] at hsize hbefore
    omega
  · rintro ⟨before, last, htext, hlast⟩
    have hsize : f.text.utf8ByteSize = before.utf8ByteSize + 10 := by
      rw [htext, String.utf8ByteSize_append, hlast]
    refine ⟨by omega, before, last, htext, ?_⟩
    rw [hsize, Nat.add_sub_cancel]
    rfl

/-- A last part of ten bytes is the short ID. -/
theorem shortId_eq_of_append {f : Fingerprint} {before last : String}
    (htext : f.text = before ++ last) (hlast : last.utf8ByteSize = shortIdSize) :
    f.shortId = last := by
  unfold shortId
  rw [Text.suffixOfSize?_toList_eq_some_iff.mpr ⟨⟨before, htext⟩, hlast⟩]
  exact String.ofList_toList

/-- If there is no last part of ten bytes, then nothing is cut off. -/
theorem shortId_eq_text {f : Fingerprint} (h : ¬ f.EndsInShortId) : f.shortId = f.text := by
  unfold shortId
  cases hlast : Text.suffixOfSize? shortIdSize f.text.toList with
  | none => rfl
  | some last =>
    rw [← String.toList_ofList (l := last), Text.suffixOfSize?_toList_eq_some_iff] at hlast
    obtain ⟨⟨before, htext⟩, hsize⟩ := hlast
    exact absurd (endsInShortId_iff.mpr ⟨before, _, htext, hsize⟩) h

/-- A short ID is the end of its fingerprint. -/
theorem exists_eq_append_shortId (f : Fingerprint) : ∃ before, f.text = before ++ f.shortId := by
  by_cases h : f.EndsInShortId
  · obtain ⟨before, last, htext, hlast⟩ := endsInShortId_iff.mp h
    exact ⟨before, by rw [shortId_eq_of_append htext hlast, htext]⟩
  · exact ⟨"", by rw [shortId_eq_text h, String.empty_append]⟩

/-- The bytes of a short ID that is cut off are the last ten. -/
theorem toByteArray_shortId {f : Fingerprint} (h : f.EndsInShortId) :
    f.shortId.toByteArray =
      f.text.toByteArray.extract (f.text.utf8ByteSize - 10) f.text.utf8ByteSize := by
  obtain ⟨before, last, htext, hlast⟩ := endsInShortId_iff.mp h
  rw [shortId_eq_of_append htext hlast, htext, String.utf8ByteSize_append, hlast,
    Nat.add_sub_cancel, String.toByteArray_append, ByteArray.extract_append_eq_right]
  · exact String.size_toByteArray.symm
  · rw [String.size_toByteArray, String.size_toByteArray, hlast]

/-- The short ID of ten or more ASCII characters is the last ten of them. -/
theorem shortId_of_ascii {f : Fingerprint} (hlength : 10 ≤ f.text.length)
    (hascii : ∀ c ∈ f.text.toList, c.toNat < 128) :
    f.shortId = String.ofList (f.text.toList.drop (f.text.length - 10)) := by
  rw [← String.length_toList] at hlength ⊢
  exact shortId_eq_drop (fun c hc => Text.utf8Size_of_toNat_lt (hascii c hc)) hlength

end Fingerprint

/-! ### IDs -/

theorem Replica.deploymentId_of_eq {r : Replica} {f : Fingerprint} {i : Nat}
    (hf : r.deployment.fingerprint = some f) (hi : r.deployment.index = some i) :
    r.deploymentId = .ok (deploymentIdOf f i) :=
  deploymentId_of_stamps? (stamps?_eq_some_iff.mpr ⟨hf, hi⟩)

/-- **IDs of any replicas are read by their last bytes and their index.**  A replica with both
stamps has an ID, and two of them have the same one exactly if their short IDs and their
indices are the same, whatever the fingerprints hold.  A short ID is the end of its
fingerprint: the last ten bytes if these begin with a character, and otherwise all of it.  So
fingerprints of at least ten ASCII characters have the same short ID exactly if they end in
the same ten. -/
theorem deploymentId_eq_iff_lastBytes :
    (∀ (r s : Replica) (f g : Fingerprint) (i j : Nat),
      r.deployment.fingerprint = some f → r.deployment.index = some i →
      s.deployment.fingerprint = some g → s.deployment.index = some j →
        r.deploymentId = .ok (f.shortId ++ "-" ++ toString i) ∧
          s.deploymentId = .ok (g.shortId ++ "-" ++ toString j) ∧
          (r.deploymentId = s.deploymentId ↔ f.shortId = g.shortId ∧ i = j)) ∧
      (∀ f : Fingerprint,
        (∃ before, f.text = before ++ f.shortId) ∧
          (f.EndsInShortId → f.shortId.toByteArray =
            f.text.toByteArray.extract (f.text.utf8ByteSize - 10) f.text.utf8ByteSize) ∧
          (¬ f.EndsInShortId → f.shortId = f.text)) ∧
      ∀ f g : Fingerprint, 10 ≤ f.text.length → 10 ≤ g.text.length →
        (∀ c ∈ f.text.toList, c.toNat < 128) → (∀ c ∈ g.text.toList, c.toNat < 128) →
          (f.shortId = g.shortId ↔ f.text.toList.drop (f.text.length - 10) =
            g.text.toList.drop (g.text.length - 10)) := by
  refine ⟨?ids, ?bytes, ?ascii⟩
  case ids =>
    intro r s f g i j hf hi hg hj
    have hr := Replica.deploymentId_of_eq hf hi
    have hs := Replica.deploymentId_of_eq hg hj
    refine ⟨hr, hs, ?_⟩
    rw [hr, hs, Except.ok.injEq, deploymentIdOf_inj]
  case bytes =>
    intro f
    exact ⟨f.exists_eq_append_shortId, Fingerprint.toByteArray_shortId,
      Fingerprint.shortId_eq_text⟩
  case ascii =>
    intro f g hf hg hfascii hgascii
    rw [Fingerprint.shortId_of_ascii hf hfascii, Fingerprint.shortId_of_ascii hg hgascii,
      String.ofList_inj]

/-- Two fingerprints with dashes that end in the same ten bytes. -/
def dashedSample : Fingerprint × Fingerprint := (⟨"1-23-456-78"⟩, ⟨"9-23-456-78"⟩)

theorem deploymentId_eq_iff_lastBytes_dashedSample :
    dashedSample.1.shortId = dashedSample.2.shortId ∧
      (⟨Deployment.stamp {} dashedSample.1 7⟩ : Replica).deploymentId =
        (⟨Deployment.stamp {} dashedSample.2 7⟩ : Replica).deploymentId ∧
      (⟨"\u00e9123456789"⟩ : Fingerprint).shortId = "\u00e9123456789" := by
  obtain ⟨hids, hbytes, hascii⟩ := deploymentId_eq_iff_lastBytes
  have hchars : ∀ s : String, s.toList.all (·.toNat < 128) = true →
      ∀ c ∈ s.toList, c.toNat < 128 := by
    intro s hs c hc
    exact of_decide_eq_true (List.all_eq_true.mp hs c hc)
  have hshort : dashedSample.1.shortId = dashedSample.2.shortId :=
    (hascii _ _ (by decide +kernel) (by decide +kernel) (hchars _ (by decide +kernel))
      (hchars _ (by decide +kernel))).mpr (by decide +kernel)
  refine ⟨hshort, ?_, ?_⟩
  · exact (hids _ _ _ _ 7 7 rfl rfl rfl rfl).2.2.mpr ⟨hshort, rfl⟩
  · -- ten of its eleven bytes would begin in the middle of the first character
    exact (hbytes _).2.2 (by decide +kernel)

end ClusterTopology
