import Mathlib.Data.List.Dedup
import Mathlib.Order.Bounds.Defs
import ClusterTopology.Event
import ClusterTopology.Proofs.Counts

/-!
# Clashes of short IDs

The check of short IDs goes through the fingerprints in use from the smallest to the largest
and remembers the first one of every short ID.  What it remembers is thus a fact about the
fingerprints that it has passed, and since these are the smaller ones, it is a fact about all
of them: a clash is reported for each fingerprint that is not the smallest one with its
short ID, and the other side of the clash is the smallest one.

## Main definitions

* `clashAmong` — the clash of a fingerprint with the first one that has its short ID.
* `Usage.Repeats` — a smaller fingerprint in use has the same short ID.

## Main results

* `clashesFrom_eq_filterMap` — the check compares each fingerprint with the first one that has
  its short ID.
* `Usage.length_clashes_add` — there is one clash less than fingerprints for each short ID.
* `Usage.checkShortIds_eq_ok_iff` — the check passes exactly if fingerprints in use are
  told apart by their short IDs.
* `Usage.checkShortIds_reports` — **every clash is reported once, in order, and the first one
  is the error.**
-/

namespace ClusterTopology

/-! ### Going through fingerprints -/

/-- The clash of a fingerprint with the first of `fs` that has its short ID, if this is another
one. -/
def clashAmong (fs : List Fingerprint) (f : Fingerprint) : Option Clash :=
  (fs.find? (·.shortId = f.shortId)).bind fun first =>
    if first = f then none else some ⟨f.shortId, first, f⟩

/-- A fingerprint does not clash with those after it, as it is the first one itself if none
before it has its short ID. -/
theorem clashAmong_append_cons {before after : List Fingerprint} {f : Fingerprint}
    (hf : f ∉ before) : clashAmong (before ++ f :: after) f =
      (before.find? (·.shortId = f.shortId)).map fun first => ⟨f.shortId, first, f⟩ := by
  unfold clashAmong
  rw [List.find?_append]
  cases hfirst : before.find? (·.shortId = f.shortId) with
  | none =>
    rw [Option.none_or, List.find?_cons_of_pos (by simp), Option.bind_some, if_pos rfl]
    rfl
  | some first =>
    have hne : first ≠ f := by
      rintro rfl
      exact hf (List.mem_of_find?_eq_some hfirst)
    rw [Option.some_or, Option.bind_some, if_neg hne]
    rfl

/-- **Each fingerprint is compared with the first one that has its short ID**, provided that
what has been seen is the first one of each short ID among the fingerprints `before`. -/
theorem clashesFrom_eq_filterMap {seen : List (String × Fingerprint)}
    {before fs : List Fingerprint}
    (hseen : ∀ s, seen.lookup s = before.find? (·.shortId = s)) (hnodup : (before ++ fs).Nodup) :
    clashesFrom seen fs = fs.filterMap (clashAmong (before ++ fs)) := by
  induction fs generalizing seen before with
  | nil => rfl
  | cons f fs ih =>
    have hassoc : before ++ f :: fs = (before ++ [f]) ++ fs := by
      rw [List.append_assoc, List.singleton_append]
    have hf : f ∉ before := fun hmem =>
      (List.disjoint_of_nodup_append hnodup) hmem List.mem_cons_self
    have hclash : clashAmong (before ++ f :: fs) f =
        (seen.lookup f.shortId).map fun first => ⟨f.shortId, first, f⟩ := by
      rw [clashAmong_append_cons hf, hseen]
    have hnew : ∀ s, (before ++ [f]).find? (·.shortId = s) =
        (seen.lookup s).or (if f.shortId = s then some f else none) := by
      intro s
      rw [List.find?_append, List.find?_singleton, hseen]
      simp only [decide_eq_true_eq]
    rw [clashesFrom, List.filterMap_cons, hclash]
    cases hfirst : seen.lookup f.shortId with
    | some first =>
      -- the short ID of `f` has been seen, so that `f` is not the first one of any
      have hseen' : ∀ s, seen.lookup s = (before ++ [f]).find? (·.shortId = s) := by
        intro s
        rw [hnew]
        by_cases hs : f.shortId = s
        · rw [← hs, hfirst, Option.some_or]
        · rw [if_neg hs, Option.or_none]
      dsimp only [Option.map_some]
      rw [ih hseen' (hassoc ▸ hnodup), hassoc]
    | none =>
      have hseen' : ∀ s, ((f.shortId, f) :: seen).lookup s =
          (before ++ [f]).find? (·.shortId = s) := by
        intro s
        rw [hnew, Assoc.lookup_cons_eq_ite]
        by_cases hs : f.shortId = s
        · rw [← hs, if_pos rfl, hfirst, if_pos rfl, Option.none_or]
        · rw [if_neg (Ne.symm hs), if_neg hs, Option.or_none]
      dsimp only [Option.map_none]
      rw [ih hseen' (hassoc ▸ hnodup), hassoc]

/-- In an increasing list the first item with a property is the least one. -/
theorem isLeast_of_find?_eq_some {fs : List Fingerprint} (hsorted : fs.Pairwise (· < ·))
    {p : Fingerprint → Bool} {f : Fingerprint} (h : fs.find? p = some f) :
    IsLeast {g | g ∈ fs ∧ p g = true} f := by
  obtain ⟨hp, before, after, rfl, hbefore⟩ := List.find?_eq_some_iff_append.mp h
  have hafter : ∀ g ∈ after, f < g :=
    (List.pairwise_cons.mp (List.pairwise_append.mp hsorted).2.1).1
  refine ⟨⟨List.mem_append_right before List.mem_cons_self, hp⟩, ?_⟩
  rintro g ⟨hg, hpg⟩
  rcases List.mem_append.mp hg with hg | hg
  · have hnot := hbefore g hg
    rw [hpg] at hnot
    exact absurd hnot (by decide)
  · rcases List.mem_cons.mp hg with rfl | hg
    · exact Std.le_refl g
    · exact Std.le_of_lt (hafter g hg)

namespace Usage

/-! ### The clashes in a usage -/

/-- A smaller fingerprint in use has the same short ID. -/
def Repeats (u : Usage) (f : Fingerprint) : Prop :=
  ∃ g ∈ u.counts.keys, g < f ∧ g.shortId = f.shortId

instance (u : Usage) : DecidablePred u.Repeats := fun f =>
  inferInstanceAs (Decidable (∃ g ∈ u.counts.keys, g < f ∧ g.shortId = f.shortId))

theorem sorted_keys (u : Usage) : u.counts.keys.Pairwise (· < ·) :=
  List.pairwise_map.mpr u.counts.sorted

/-- No two fingerprints in use have one short ID without one of them repeating it. -/
theorem eq_of_not_repeats {u : Usage} {f g : Fingerprint} (hf : f ∈ u) (hg : g ∈ u)
    (hshort : f.shortId = g.shortId) (hf' : ¬ u.Repeats f) (hg' : ¬ u.Repeats g) : f = g := by
  apply SortedMap.eq_of_not_lt
  · intro hlt
    exact hg' ⟨f, hf, hlt, hshort⟩
  · intro hlt
    exact hf' ⟨g, hg, hlt, hshort.symm⟩

/-- A fingerprint in use clashes with the smallest one that has its short ID, if there is a
smaller one at all. -/
theorem exists_clashAmong_eq {u : Usage} {f : Fingerprint} (hf : f ∈ u) :
    ∃ first, IsLeast {g | g ∈ u ∧ g.shortId = f.shortId} first ∧
      clashAmong u.counts.keys f = if u.Repeats f then some ⟨f.shortId, first, f⟩ else none := by
  have hsome : (u.counts.keys.find? (·.shortId = f.shortId)).isSome :=
    List.find?_isSome.mpr ⟨f, hf, decide_eq_true rfl⟩
  obtain ⟨first, hfirst⟩ := Option.isSome_iff_exists.mp hsome
  have hleast : IsLeast {g | g ∈ u ∧ g.shortId = f.shortId} first := by
    have h := isLeast_of_find?_eq_some u.sorted_keys hfirst
    simp only [decide_eq_true_eq] at h
    exact h
  have hrepeats : u.Repeats f ↔ first ≠ f := by
    constructor
    · rintro ⟨g, hg, hlt, hshort⟩ rfl
      exact Std.not_le.mpr hlt (hleast.2 ⟨hg, hshort⟩)
    · intro hne
      have hle : first ≤ f := hleast.2 ⟨hf, rfl⟩
      exact ⟨first, hleast.1.1, Std.lt_of_le_of_ne hle hne, hleast.1.2⟩
  refine ⟨first, hleast, ?_⟩
  unfold clashAmong
  rw [hfirst, Option.bind_some]
  by_cases h : first = f
  · rw [if_pos h, if_neg (mt hrepeats.mp (not_not.mpr h))]
  · rw [if_neg h, if_pos (hrepeats.mpr h)]

theorem clashes_eq_filterMap (u : Usage) :
    u.clashes = u.counts.keys.filterMap (clashAmong u.counts.keys) :=
  @clashesFrom_eq_filterMap [] [] u.counts.keys (fun _ => rfl) u.nodup_keys

/-- There is a clash for each fingerprint that repeats a short ID, in order. -/
theorem map_second_clashes (u : Usage) :
    u.clashes.map (·.second) = u.counts.keys.filter u.Repeats := by
  rw [clashes_eq_filterMap, List.map_filterMap, ← List.filterMap_eq_filter]
  refine List.filterMap_congr fun f hf => ?_
  obtain ⟨first, -, hclash⟩ := exists_clashAmong_eq hf
  rw [hclash]
  by_cases h : u.Repeats f <;> simp [h, Option.guard]

theorem isLeast_first_of_mem_clashes {u : Usage} {c : Clash} (h : c ∈ u.clashes) :
    c.shortId = c.second.shortId ∧ IsLeast {f | f ∈ u ∧ f.shortId = c.shortId} c.first := by
  rw [clashes_eq_filterMap] at h
  obtain ⟨f, hf, hclash⟩ := List.mem_filterMap.mp h
  obtain ⟨first, hleast, heq⟩ := exists_clashAmong_eq hf
  rw [heq, Option.ite_none_right_eq_some, Option.some.injEq] at hclash
  obtain ⟨-, rfl⟩ := hclash
  exact ⟨rfl, hleast⟩

/-- The fingerprints that repeat no short ID have every short ID once. -/
theorem perm_map_shortId_filter (u : Usage) :
    ((u.counts.keys.filter fun f => ¬ u.Repeats f).map (·.shortId)).Perm
      (u.counts.keys.map (·.shortId)).dedup := by
  have hmem : ∀ f, (f ∈ u.counts.keys.filter fun f => ¬ u.Repeats f) ↔ f ∈ u ∧ ¬ u.Repeats f := by
    intro f
    rw [List.mem_filter, decide_eq_true_eq]
    rfl
  have hnodup : ((u.counts.keys.filter fun f => ¬ u.Repeats f).map (·.shortId)).Nodup := by
    refine (u.nodup_keys.filter _).map_on ?_
    intro f hf g hg hshort
    rw [hmem] at hf hg
    exact eq_of_not_repeats hf.1 hg.1 hshort hf.2 hg.2
  refine (List.perm_ext_iff_of_nodup hnodup (List.nodup_dedup _)).mpr fun s => ?_
  rw [List.mem_dedup, List.mem_map, List.mem_map]
  constructor
  · rintro ⟨f, hf, rfl⟩
    exact ⟨f, ((hmem f).mp hf).1, rfl⟩
  · rintro ⟨f, hf, rfl⟩
    -- the smallest fingerprint with this short ID repeats none
    obtain ⟨first, hleast, -⟩ := exists_clashAmong_eq hf
    refine ⟨first, (hmem first).mpr ⟨hleast.1.1, ?_⟩, hleast.1.2⟩
    rintro ⟨g, hg, hlt, hshort⟩
    exact Std.not_le.mpr hlt (hleast.2 ⟨hg, hshort.trans hleast.1.2⟩)

/-- For each short ID there is one clash less than there are fingerprints. -/
theorem length_clashes_add (u : Usage) :
    u.clashes.length + (u.counts.keys.map (·.shortId)).dedup.length = u.size := by
  have hclashes : u.clashes.length = (u.counts.keys.filter u.Repeats).length := by
    rw [← map_second_clashes, List.length_map]
  have hkeys : u.size = u.counts.keys.length := (List.length_map _).symm
  rw [hclashes, ← (perm_map_shortId_filter u).length_eq, List.length_map, hkeys,
    List.length_eq_length_filter_add (l := u.counts.keys) fun f => u.Repeats f]
  simp only [decide_not]

/-! ### What the check reports -/

/-- The check passes exactly if the short ID tells apart the fingerprints in use. -/
theorem checkShortIds_eq_ok_iff {u : Usage} :
    u.checkShortIds = .ok () ↔ ∀ f ∈ u, ∀ g ∈ u, f.shortId = g.shortId → f = g := by
  have hclashes : u.checkShortIds = .ok () ↔ u.clashes = [] := by
    unfold checkShortIds
    cases u.clashes <;> simp
  rw [hclashes, ← List.map_eq_nil_iff, map_second_clashes, List.filter_eq_nil_iff]
  simp only [decide_eq_true_eq]
  constructor
  · intro h f hf g hg hshort
    exact eq_of_not_repeats hf hg hshort (h f hf) (h g hg)
  · rintro h f hf ⟨g, hg, hlt, hshort⟩
    obtain rfl := h g hg f hf hshort
    exact Std.lt_irrefl hlt

theorem checkShortIds_eq_error_iff {u : Usage} {e : IdentityError} :
    u.checkShortIds = .error e ↔ ∃ c, u.clashes.head? = some c ∧ e = .shortIdClash c := by
  unfold checkShortIds
  cases u.clashes with
  | nil => simp
  | cons c clashes => simp [eq_comm]

/-- **Every clash is reported once, in order, and the first one is the error.**  The check
passes exactly if the short ID tells apart the fingerprints in use.  It warns of each
fingerprint that repeats a short ID, from the smallest to the largest, and names as the first
one the smallest fingerprint in use with this short ID.  So there is one warning less than
fingerprints for each short ID.  If the check fails, then with what the first warning says. -/
theorem checkShortIds_reports (u : Usage) :
    (u.checkShortIds = .ok () ↔ ∀ f ∈ u, ∀ g ∈ u, f.shortId = g.shortId → f = g) ∧
      (∃ clashes : List Clash, u.clashEvents = clashes.map .shortIdClash ∧
        clashes.map (·.second) = u.counts.keys.filter u.Repeats ∧
        (clashes.map (·.second)).Pairwise (· < ·) ∧
        ∀ c ∈ clashes, c.shortId = c.second.shortId ∧
          IsLeast {f | f ∈ u ∧ f.shortId = c.shortId} c.first) ∧
      (∀ event ∈ u.clashEvents, event.level = .warn) ∧
      u.clashEvents.length + (u.counts.keys.map (·.shortId)).dedup.length = u.size ∧
      ∀ e, u.checkShortIds = .error e ↔
        ∃ c, u.clashEvents.head? = some (.shortIdClash c) ∧ e = .shortIdClash c := by
  refine ⟨checkShortIds_eq_ok_iff, ⟨u.clashes, rfl, u.map_second_clashes, ?increasing, ?named⟩,
    ?level, ?number, ?error⟩
  case increasing =>
    rw [map_second_clashes]
    exact u.sorted_keys.filter _
  case named =>
    intro c hc
    exact isLeast_first_of_mem_clashes hc
  case level =>
    intro event hevent
    obtain ⟨c, -, rfl⟩ := List.mem_map.mp hevent
    rfl
  case number =>
    rw [clashEvents, List.length_map]
    exact u.length_clashes_add
  case error =>
    intro e
    rw [checkShortIds_eq_error_iff, clashEvents, List.head?_map]
    refine exists_congr fun c => and_congr_left fun _ => ?_
    rw [Option.map_eq_some_iff]
    simp

/-- Of three fingerprints with one short ID, the second and the third clash with the first. -/
example : (ofList [(⟨"c-0123456789"⟩, 0), (⟨"a-0123456789"⟩, 2), (⟨"0"⟩, 1),
    (⟨"b-0123456789"⟩, 1)]).clashes =
      [⟨"0123456789", ⟨"a-0123456789"⟩, ⟨"b-0123456789"⟩⟩,
        ⟨"0123456789", ⟨"a-0123456789"⟩, ⟨"c-0123456789"⟩⟩] := by
  decide +kernel

end Usage

end ClusterTopology
