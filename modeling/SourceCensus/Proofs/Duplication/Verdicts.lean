import SourceCensus.Proofs.Duplication.DetectedBlocks

/-! # Verdicts on any index -/

namespace SourceCensus.Duplication

variable {κ : Type} {files : List CodeFile} {k m : Int} {s : LocationSet}
  {index index' : List (κ × List Location)}

/-- The locations of an index are in files of the project, though maybe past the end of them. -/
def Locates (files : List CodeFile) (index : List (κ × List Location)) : Prop :=
  ∀ entry ∈ index, ∀ a ∈ entry.2, a.Placed ∧ a.file < files.length

instance : Decidable (Locates files index) :=
  inferInstanceAs (Decidable (∀ entry ∈ index, ∀ a ∈ entry.2,
    (0 ≤ a.file ∧ 0 ≤ a.offset) ∧ a.file < files.length))

/-- The buckets of one index are, in some order, those of another one, with the same locations in each
of them. -/
def Rearranged (index index' : List (κ × List Location)) : Prop :=
  ∃ between, index.Perm between ∧
    List.Forall₂ (fun entry entry' => ∀ a, a ∈ entry.2 ↔ a ∈ entry'.2) between index'

def verdictsOn (files : List CodeFile) (k m : Int) (index : List (κ × List Location)) :
    List Verdict :=
  index.map fun entry => verdictOf files k m (.ofList entry.2)

/-- What judging an index has to come to. -/
structure JudgedExactly (files : List CodeFile) (k m : Int) (index : List (κ × List Location))
    (v : Validation κ) : Prop where
  /-- A confirmed set lists the different locations of a bucket in increasing order. -/
  mem_confirmed_iff : ∀ s : LocationSet, s ∈ v.confirmed.map (·.1) ↔ ∃ entry ∈ index,
    (s.Pairwise (· < ·) ∧ ∀ a, a ∈ s ↔ a ∈ entry.2) ∧ 2 ≤ s.length ∧ s.length ≤ m ∧
      SameText files k s
  mem_ordered_iff : ∀ s : LocationSet, s ∈ v.ordered ↔ s ∈ v.confirmed.map (·.1)
  ordered_increasing : v.ordered.Pairwise (· < ·)
  boilerplate_eq : v.boilerplate =
    index.countP fun entry => Deserves files k m (.ofList entry.2) .boilerplate
  collisions_eq : v.collisions =
    index.countP fun entry => Deserves files k m (.ofList entry.2) .collision
  /-- Every bucket has one of the verdicts. -/
  sum_eq : (index.countP fun entry => Deserves files k m (.ofList entry.2) .single) +
    v.boilerplate + v.collisions +
    (index.countP fun entry => Deserves files k m (.ofList entry.2) .confirmed) = index.length

section Verdicts

theorem countP_deserves (verdict : Verdict) :
    (index.countP fun entry => Deserves files k m (.ofList entry.2) verdict) =
      (verdictsOn files k m index).count verdict := by
  rw [verdictsOn, List.count, List.countP_map]
  apply List.countP_congr
  intro entry _
  rw [decide_eq_true_eq, ← verdictOf_eq_iff, Function.comp_apply, beq_iff_eq]

theorem boilerplate_validationOf : (validationOf files k m index).boilerplate =
    (verdictsOn files k m index).count .boilerplate := by
  simp only [validationOf, Validation.ofJudged, verdictsOn, List.count, List.countP_map]
  rfl

theorem collisions_validationOf : (validationOf files k m index).collisions =
    (verdictsOn files k m index).count .collision := by
  simp only [validationOf, Validation.ofJudged, verdictsOn, List.count, List.countP_map]
  rfl

/-- The four verdicts account for all buckets. -/
theorem sum_count_verdicts (verdicts : List Verdict) :
    verdicts.count .single + verdicts.count .boilerplate + verdicts.count .collision +
      verdicts.count .confirmed = verdicts.length := by
  induction verdicts with
  | nil => rfl
  | cons verdict verdicts ih => cases verdict <;> simp <;> omega

theorem judgedExactly_validationOf :
    JudgedExactly files k m index (validationOf files k m index) where
  mem_confirmed_iff s := by
    rw [mem_confirmed_validationOf]
    simp only [LocationSet.ofList_eq_iff, verdictOf_eq_iff]
    rfl
  mem_ordered_iff s := LocationSet.mem_sorted
  ordered_increasing := LocationSet.pairwise_sorted (nodup_confirmed_validationOf index)
  boilerplate_eq := by rw [countP_deserves, boilerplate_validationOf]
  collisions_eq := by rw [countP_deserves, collisions_validationOf]
  sum_eq := by
    rw [countP_deserves, countP_deserves, boilerplate_validationOf, collisions_validationOf,
      sum_count_verdicts, verdictsOn, List.length_map]

end Verdicts

namespace Rearranged

/-- Rearranged indices have the same sets, bucket for bucket. -/
theorem perm_sets (h : Rearranged index index') :
    (index.map fun entry => LocationSet.ofList entry.2).Perm
      (index'.map fun entry => LocationSet.ofList entry.2) := by
  obtain ⟨between, hperm, hsame⟩ := h
  have heq : (between.map fun entry => LocationSet.ofList entry.2) =
      index'.map fun entry => LocationSet.ofList entry.2 := by
    clear hperm
    induction hsame with
    | nil => rfl
    | cons hmem _ ih =>
      rw [List.map_cons, List.map_cons, ih]
      congr 1
      exact LocationSet.ofList_eq_iff.mpr
        ⟨LocationSet.pairwise_ofList _, fun a => LocationSet.mem_ofList.trans (hmem a).symm⟩
  exact heq ▸ hperm.map _

theorem locates (h : Rearranged index index') (hlocates : Locates files index) :
    Locates files index' := by
  intro entry' he' a ha
  have hmem := h.perm_sets.mem_iff.mpr (List.mem_map_of_mem he')
  obtain ⟨entry, he, hset⟩ := List.mem_map.mp hmem
  have ha' : a ∈ LocationSet.ofList entry.2 := by
    rw [hset]
    exact LocationSet.mem_ofList.mpr ha
  exact hlocates entry he a (LocationSet.mem_ofList.mp ha')

theorem perm_verdictsOn (h : Rearranged index index') (files : List CodeFile) (k m : Int) :
    (verdictsOn files k m index).Perm (verdictsOn files k m index') := by
  have hmap (index : List (κ × List Location)) : verdictsOn files k m index =
      (index.map fun entry => LocationSet.ofList entry.2).map (verdictOf files k m) := by
    rw [List.map_map]
    rfl
  rw [hmap, hmap]
  exact h.perm_sets.map _

theorem mem_confirmed_iff (h : Rearranged index index') :
    s ∈ (validationOf files k m index).confirmed.map (·.1) ↔
      s ∈ (validationOf files k m index').confirmed.map (·.1) := by
  have hmem (index : List (κ × List Location)) :
      s ∈ (validationOf files k m index).confirmed.map (·.1) ↔
        s ∈ (index.map fun entry => LocationSet.ofList entry.2) ∧
          verdictOf files k m s = .confirmed := by
    rw [mem_confirmed_validationOf, List.mem_map]
    constructor
    · rintro ⟨entry, he, hset, hverdict⟩
      exact ⟨⟨entry, he, hset⟩, hverdict⟩
    · rintro ⟨⟨entry, he, hset⟩, hverdict⟩
      exact ⟨entry, he, hset, hverdict⟩
  rw [hmem, hmem, h.perm_sets.mem_iff]

end Rearranged

theorem Locates.outcome_confirm {settings : Settings} (h : Locates files index) :
    (confirm settings files index).outcome =
      .ok (validationOf files settings.minLines settings.maxOccurrences index) := by
  apply Duplication.outcome_confirm
  intro entry he a ha
  obtain ⟨hplaced, hlt⟩ := h entry he a ha
  have hindex : a.file.toNat < files.length := by
    have := hplaced.1
    omega
  exact ⟨_, fileAt_eq_ok hplaced (List.getElem?_eq_getElem hindex)⟩

/-- An index whose locations are in files of the project is judged without a fault, and exactly: the
confirmed sets are the sorted sets of those buckets that have at least two different locations, no more
than allowed, and one text at all of them, each of these sets stands once in their increasing order,
and the buckets of fewer than two locations, those left out as boilerplate, those left out as collisions
and those accepted add up to all buckets.  An index that has the same buckets in another order, with
their locations in another order or repeated, leads to the same order, the same confirmed sets and the
same numbers of buckets left out. -/
theorem buckets_judged_exactly (settings : Settings) (files : List CodeFile)
    (index : List (κ × List Location)) (h : Locates files index) :
    ∃ v, (confirm settings files index).outcome = .ok v ∧
      JudgedExactly files settings.minLines settings.maxOccurrences index v ∧
      ∀ index' : List (κ × List Location), Rearranged index index' →
        ∃ v', (confirm settings files index').outcome = .ok v' ∧ v'.ordered = v.ordered ∧
          (∀ s : LocationSet, s ∈ v'.confirmed.map (·.1) ↔ s ∈ v.confirmed.map (·.1)) ∧
          v'.boilerplate = v.boilerplate ∧ v'.collisions = v.collisions := by
  refine ⟨_, h.outcome_confirm, judgedExactly_validationOf, fun index' h' => ?_⟩
  refine ⟨_, (h'.locates h).outcome_confirm, ?_, fun s => h'.mem_confirmed_iff.symm, ?_, ?_⟩
  · exact LocationSet.sorted_eq_of_mem_iff (nodup_confirmed_validationOf index')
      (nodup_confirmed_validationOf index) fun s => h'.mem_confirmed_iff.symm
  · rw [boilerplate_validationOf, boilerplate_validationOf]
    exact ((h'.perm_verdictsOn files _ _).count_eq _).symm
  · rw [collisions_validationOf, collisions_validationOf]
    exact ((h'.perm_verdictsOn files _ _).count_eq _).symm

/-- Buckets over the sample project: one with a repeated location, one with the same two locations,
one with two texts, one of four locations, one with a location past the end of its file, and an empty
one. -/
def mixedIndex : List (Nat × List Location) :=
  [(1, [⟨1, 1⟩, ⟨0, 0⟩, ⟨1, 1⟩]), (2, [⟨0, 0⟩, ⟨2, 0⟩]), (3, [⟨0, 0⟩, ⟨0, 1⟩, ⟨0, 2⟩, ⟨1, 0⟩]),
    (4, [⟨0, 9⟩]), (5, [⟨0, 0⟩, ⟨1, 1⟩]), (6, [])]

/-- The mixed index from its last bucket to its first, with the locations of each bucket reversed. -/
def reversedIndex : List (Nat × List Location) :=
  mixedIndex.reverse.map fun entry => (entry.1, entry.2.reverse)

theorem outcome_confirm_mixedIndex :
    (confirm sampleSettings sampleFiles mixedIndex).outcome =
      .ok ⟨[([⟨0, 0⟩, ⟨1, 1⟩], 5)], 1, 1⟩ := by
  cbv

/-- Of the mixed index one set is confirmed, from two buckets, and a bucket each is left out for its
locations and for its texts; its reverse comes to the same. -/
theorem mixedIndex_judged : Locates sampleFiles mixedIndex ∧
    JudgedExactly sampleFiles 1 2 mixedIndex ⟨[([⟨0, 0⟩, ⟨1, 1⟩], 5)], 1, 1⟩ ∧
    Rearranged mixedIndex reversedIndex ∧
    ∃ v, (confirm sampleSettings sampleFiles reversedIndex).outcome = .ok v ∧
      v.ordered = [[⟨0, 0⟩, ⟨1, 1⟩]] ∧ v.boilerplate = 1 ∧ v.collisions = 1 := by
  have hlocates : Locates sampleFiles mixedIndex := by decide
  have hrearranged : Rearranged mixedIndex reversedIndex := by
    refine ⟨mixedIndex.reverse, (List.reverse_perm mixedIndex).symm, ?_⟩
    rw [reversedIndex, List.forall₂_map_right_iff, List.forall₂_same]
    intro entry _ a
    exact List.mem_reverse.symm
  obtain ⟨v, hv, hexact, hall⟩ :=
    buckets_judged_exactly sampleSettings sampleFiles mixedIndex hlocates
  rw [outcome_confirm_mixedIndex] at hv
  obtain rfl := Except.ok.inj hv
  obtain ⟨v', hv', hordered, -, hboilerplate, hcollisions⟩ := hall reversedIndex hrearranged
  exact ⟨hlocates, hexact, hrearranged, v', hv', hordered.trans (List.mergeSort_singleton _),
    hboilerplate, hcollisions⟩

end SourceCensus.Duplication
