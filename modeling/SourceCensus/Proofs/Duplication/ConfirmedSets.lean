import SourceCensus.Duplication.Detection
import SourceCensus.Proofs.Duplication.Blocks

/-! # Which sets are confirmed -/

namespace SourceCensus.Duplication

variable {files : List CodeFile} {size ceiling : Int} {a : Location} {s : LocationSet}

/-- All locations at which a window of `size` lines lies inside its file, in order. -/
def places (size : Int) (files : List CodeFile) : List Location :=
  files.zipIdx.flatMap fun entry =>
    (List.range (windowCount size entry.1.lines.length)).map fun (offset : Nat) => ⟨entry.2, offset⟩

theorem lt_windowCount {count offset : Nat} :
    offset < windowCount size count ↔ (offset : Int) + size ≤ count := by
  unfold windowCount
  split <;> omega

theorem mem_places : a ∈ places size files ↔ Fits files size a := by
  simp only [places, List.mem_flatMap, List.mem_map, List.mem_range, Prod.exists,
    List.mem_zipIdx_iff_getElem?, lt_windowCount]
  constructor
  · rintro ⟨file, index, hf, offset, ho, rfl⟩
    exact ⟨⟨by simp, by simp⟩, file, hf, ho⟩
  · rintro ⟨⟨h₀, h₁⟩, file, hf, hl⟩
    refine ⟨file, a.file.toNat, hf, a.offset.toNat, by omega, ?_⟩
    cases a
    simp only [Location.mk.injEq] at h₀ h₁ ⊢
    omega

theorem length_places (size : Int) (files : List CodeFile) : ((places size files).length : Int) =
    Sequence.total (files.map fun file => max 0 ((file.lines.length : Int) - size + 1)) := by
  have hcount (count : Nat) : (windowCount size count : Int) = max 0 ((count : Int) - size + 1) := by
    unfold windowCount
    split <;> omega
  rw [places, ← Sequence.total_map_length, ← List.zipIdx_map_fst 0 files, List.map_map,
    List.zipIdx_map_fst]
  simp [Function.comp_def, hcount]

theorem pairwise_places (size : Int) (files : List CodeFile) :
    (places size files).Pairwise (· < ·) := by
  refine List.pairwise_flatMap.mpr ⟨?_, ?_⟩
  · intro entry _
    refine List.pairwise_map.mpr (List.pairwise_lt_range.imp ?_)
    intro i j hij
    exact .inr ⟨rfl, by simpa using hij⟩
  · have hidx : (files.zipIdx.map (·.2)).Pairwise (· < ·) := by
      rw [List.zipIdx_map_snd]
      exact List.pairwise_lt_range'
    refine (List.pairwise_map.mp hidx).imp ?_
    intro e f hef x hx y hy
    obtain ⟨i, -, rfl⟩ := List.mem_map.mp hx
    obtain ⟨j, -, rfl⟩ := List.mem_map.mp hy
    exact .inl (by simpa using hef)

/-- The windows are the places with the hash of their text. -/
theorem windows_eq (size : Int) (files : List CodeFile) :
    windows size files =
      (places size files).map fun a => ⟨Digest.hashWindow (textOf files size a), a⟩ := by
  rw [windows, places, List.map_flatMap]
  apply List.flatMap_congr
  rintro ⟨file, index⟩ he
  have hf : files[index]? = some file := List.mem_zipIdx_iff_getElem?.mp he
  simp only [fileWindows, List.map_map]
  apply List.map_congr_left
  intro offset _
  have hfile : fileAt files ⟨index, offset⟩ = .ok file :=
    fileAt_eq_ok ⟨by simp, by simp⟩ (by simpa using hf)
  simp [textOf, linesAt, hfile, CodeFile.block, Digest.hashWindow, Sequence.slice_map,
    Function.comp_def]

theorem bucket_windows (hash : UInt64) :
    bucket (windows size files) hash =
      (places size files).filter fun a => Digest.hashWindow (textOf files size a) == hash := by
  rw [bucket, windows_eq, List.filter_map, List.map_map]
  simp [Function.comp_def]

theorem mem_bucket_windows {hash : UInt64} : a ∈ bucket (windows size files) hash ↔
    Fits files size a ∧ Digest.hashWindow (textOf files size a) = hash := by
  rw [bucket_windows, List.mem_filter, mem_places, beq_iff_eq]

/-- A bucket is sorted from the start, since windows are enumerated in order. -/
theorem ofList_bucket_windows (hash : UInt64) :
    LocationSet.ofList (bucket (windows size files) hash) = bucket (windows size files) hash := by
  apply LocationSet.ofList_eq_self
  rw [bucket_windows]
  exact (pairwise_places size files).filter _

/-- The index has one bucket for each hash of a window. -/
theorem mem_fingerprints {entry : UInt64 × List Location} :
    entry ∈ fingerprints size files ↔ ∃ a, Fits files size a ∧
      entry = (Digest.hashWindow (textOf files size a),
        bucket (windows size files) (Digest.hashWindow (textOf files size a))) := by
  simp only [fingerprints, buckets, List.mem_map, List.mem_eraseDups]
  constructor
  · rintro ⟨hash, ⟨w, hw, rfl⟩, rfl⟩
    rw [windows_eq] at hw
    obtain ⟨a, ha, rfl⟩ := List.mem_map.mp hw
    exact ⟨a, mem_places.mp ha, rfl⟩
  · rintro ⟨a, ha, rfl⟩
    refine ⟨_, ⟨⟨_, a⟩, ?_, rfl⟩, rfl⟩
    rw [windows_eq]
    exact List.mem_map_of_mem (mem_places.mpr ha)

/-- The locations of a bucket are places of the project. -/
theorem fits_of_mem_fingerprints {entry : UInt64 × List Location}
    (h : entry ∈ fingerprints size files) (ha : a ∈ entry.2) : Fits files size a := by
  obtain ⟨c, -, rfl⟩ := mem_fingerprints.mp h
  exact (mem_bucket_windows.mp ha).1

/-- The sorted list of all places whose window has the text `w`. -/
def occurrences (size : Int) (files : List CodeFile) (w : List (List Char)) : LocationSet :=
  (places size files).filter fun a => textOf files size a = w

theorem mem_occurrences {w : List (List Char)} :
    a ∈ occurrences size files w ↔ Fits files size a ∧ textOf files size a = w := by
  simp [occurrences, mem_places]

theorem pairwise_occurrences (size : Int) (files : List CodeFile) (w : List (List Char)) :
    (occurrences size files w).Pairwise (· < ·) :=
  (pairwise_places size files).filter _

/-- The bucket of a text whose hash no other text has. -/
theorem bucket_eq_occurrences {w : List (List Char)}
    (hw : ∀ a, Fits files size a →
      Digest.hashWindow (textOf files size a) = Digest.hashWindow w → textOf files size a = w) :
    bucket (windows size files) (Digest.hashWindow w) = occurrences size files w := by
  rw [bucket_windows, occurrences]
  apply List.filter_congr
  intro a ha
  rw [Bool.eq_iff_iff, beq_iff_eq, decide_eq_true_eq]
  constructor
  · exact hw a (mem_places.mp ha)
  · intro ht
    rw [ht]

def verdictOf (files : List CodeFile) (size ceiling : Int) (s : LocationSet) : Verdict :=
  if s.length < 2 then .single
  else if ceiling < s.length then .boilerplate
  else if ∀ a ∈ s, ∀ c ∈ s, textOf files size a = textOf files size c then .confirmed
  else .collision

private theorem allCarry_eq_ok {w : List (List Char)}
    (h : ∀ a ∈ s, ∃ file, fileAt files a = .ok file) :
    allCarry files size w s = .ok (decide (∀ a ∈ s, textOf files size a = w)) := by
  induction s with
  | nil => simp [allCarry]
  | cons a s ih =>
    obtain ⟨file, hf⟩ := h a (by simp)
    rw [allCarry, textsAt_eq_ok hf, ok_bind, ih fun c hc => h c (by simp [hc])]
    by_cases ha : textOf files size a = w <;> simp [ha]

private theorem same_iff_head {first : Location} {others : List Location}
    {f : Location → List (List Char)} :
    (∀ a ∈ others, f a = f first) ↔ ∀ a ∈ first :: others, ∀ c ∈ first :: others, f a = f c := by
  constructor
  · intro h
    have h' : ∀ a ∈ first :: others, f a = f first := by
      intro a ha
      rcases List.mem_cons.mp ha with rfl | ha
      · rfl
      · exact h a ha
    intro a ha c hc
    rw [h' a ha, h' c hc]
  · intro h a ha
    exact h a (by simp [ha]) first (by simp)

theorem judge_eq_ok (h : ∀ a ∈ s, ∃ file, fileAt files a = .ok file) :
    judge files size ceiling s = .ok (verdictOf files size ceiling s) := by
  match s with
  | [] => rfl
  | [_] => rfl
  | first :: second :: others =>
    obtain ⟨file, hf⟩ := h first (by simp)
    have hothers : allCarry files size (textOf files size first) (second :: others) = _ :=
      allCarry_eq_ok fun a ha => h a (List.mem_cons_of_mem _ ha)
    have hlen : ¬ (first :: second :: others).length < 2 := by simp
    simp only [judge, verdictOf, if_neg hlen]
    by_cases hc : ceiling < (first :: second :: others).length
    · rw [if_pos hc, if_pos hc]
    · rw [if_neg hc, if_neg hc, textsAt_eq_ok hf, ok_bind, hothers, ok_bind]
      simp only [same_iff_head, decide_eq_true_eq, pure_eq_ok]

/-- The outcome of judging all buckets of an index, with the verdicts as a total function. -/
def validationOf {κ : Type} (files : List CodeFile) (size ceiling : Int)
    (index : List (κ × List Location)) : Validation κ :=
  .ofJudged <| index.map fun entry =>
    ⟨.ofList entry.2, entry.1, verdictOf files size ceiling (.ofList entry.2)⟩

theorem validate_eq_ok {κ : Type} {index : List (κ × List Location)}
    (h : ∀ entry ∈ index, ∀ a ∈ entry.2, ∃ file, fileAt files a = .ok file) :
    validate files size ceiling index = .ok (validationOf files size ceiling index) := by
  have hj : index.mapM (judgeBucket files size ceiling) = .ok (index.map fun entry =>
      ⟨.ofList entry.2, entry.1, verdictOf files size ceiling (.ofList entry.2)⟩) := by
    apply mapM_eq_ok
    intro entry he
    rw [judgeBucket, judge_eq_ok fun a ha => h entry he a (LocationSet.mem_ofList.mp ha)]
    rfl
  rw [validate, hj]
  rfl

theorem outcome_confirm {κ : Type} {settings : Settings} {index : List (κ × List Location)}
    (h : ∀ entry ∈ index, ∀ a ∈ entry.2, ∃ file, fileAt files a = .ok file) :
    (confirm settings files index).outcome =
      .ok (validationOf files settings.minLines settings.maxOccurrences index) := by
  simp only [confirm, Run.outcome_bind, Run.outcome_ofExcept, Run.outcome_noteIf,
    Run.outcome_pure, validate_eq_ok h, ok_bind]

theorem outcome_index (size : Int) (files : List CodeFile) :
    (index size files).outcome = .ok (fingerprints size files) := by
  simp [index, fingerprints]

/-- The confirmed sets are the sets of those buckets whose verdict says so. -/
theorem mem_confirmed_validationOf {κ : Type} {index : List (κ × List Location)} :
    s ∈ (validationOf files size ceiling index).confirmed.map (·.1) ↔
      ∃ entry ∈ index, LocationSet.ofList entry.2 = s ∧
        verdictOf files size ceiling s = .confirmed := by
  rw [validationOf, Validation.ofJudged, Sequence.mem_keys_ofWrites]
  simp only [List.mem_map, List.mem_filter, beq_iff_eq]
  constructor
  · rintro ⟨_, ⟨_, ⟨⟨entry, he, rfl⟩, hv⟩, rfl⟩, rfl⟩
    exact ⟨entry, he, rfl, hv⟩
  · rintro ⟨entry, he, rfl, hv⟩
    exact ⟨_, ⟨_, ⟨⟨entry, he, rfl⟩, hv⟩, rfl⟩, rfl⟩

theorem nodup_confirmed_validationOf {κ : Type} (index : List (κ × List Location)) :
    ((validationOf files size ceiling index).confirmed.map (·.1)).Nodup :=
  Sequence.nodup_keys_ofWrites _

/-- The confirmed sets of a project. -/
def confirmedSets (size ceiling : Int) (files : List CodeFile) : List LocationSet :=
  (validationOf files size ceiling (fingerprints size files)).confirmed.map (·.1)

theorem nodup_confirmedSets (size ceiling : Int) (files : List CodeFile) :
    (confirmedSets size ceiling files).Nodup :=
  nodup_confirmed_validationOf _

/-- The windows at all locations of a set have the same text, as far as they reach into their
files. -/
def SameText (files : List CodeFile) (size : Int) (s : LocationSet) : Prop :=
  ∀ a ∈ s, ∀ c ∈ s, textOf files size a = textOf files size c

/-- What a set of locations has to be for a verdict on it. -/
def Deserves (files : List CodeFile) (size ceiling : Int) (s : LocationSet) : Verdict → Prop
  | .single => s.length < 2
  | .boilerplate => 2 ≤ s.length ∧ ceiling < s.length
  | .collision => 2 ≤ s.length ∧ s.length ≤ ceiling ∧ ¬ SameText files size s
  | .confirmed => 2 ≤ s.length ∧ s.length ≤ ceiling ∧ SameText files size s

theorem verdictOf_eq_iff {verdict : Verdict} :
    verdictOf files size ceiling s = verdict ↔ Deserves files size ceiling s verdict := by
  constructor
  · rintro rfl
    unfold verdictOf
    split_ifs with hsingle hceiling hsame
    · exact hsingle
    · exact ⟨by omega, hceiling⟩
    · exact ⟨by omega, by omega, hsame⟩
    · exact ⟨by omega, by omega, hsame⟩
  · intro h
    cases verdict with
    | single => exact if_pos h
    | boilerplate => rw [verdictOf, if_neg (Nat.not_lt.mpr h.1), if_pos h.2]
    | collision =>
      rw [verdictOf, if_neg (Nat.not_lt.mpr h.1), if_neg (Int.not_lt.mpr h.2.1)]
      exact if_neg h.2.2
    | confirmed =>
      rw [verdictOf, if_neg (Nat.not_lt.mpr h.1), if_neg (Int.not_lt.mpr h.2.1)]
      exact if_pos h.2.2

instance {verdict : Verdict} : Decidable (Deserves files size ceiling s verdict) :=
  decidable_of_iff _ verdictOf_eq_iff

theorem verdictOf_eq_confirmed :
    verdictOf files size ceiling s = .confirmed ↔ 2 ≤ s.length ∧ (s.length : Int) ≤ ceiling ∧
      ∀ a ∈ s, ∀ c ∈ s, textOf files size a = textOf files size c :=
  verdictOf_eq_iff

/-- A set is confirmed when it is the list of all places of a text, of at least two and at most
`ceiling` places, and no window with another text has the hash of that text. -/
theorem mem_confirmedSets : s ∈ confirmedSets size ceiling files ↔
    2 ≤ s.length ∧ (s.length : Int) ≤ ceiling ∧ ∃ w, s = occurrences size files w ∧
      ∀ a, Fits files size a → Digest.hashWindow (textOf files size a) = Digest.hashWindow w →
        textOf files size a = w := by
  rw [confirmedSets, mem_confirmed_validationOf]
  constructor
  · rintro ⟨entry, he, rfl, hv⟩
    obtain ⟨h₂, hc, hsame⟩ := verdictOf_eq_confirmed.mp hv
    obtain ⟨c, -, rfl⟩ := mem_fingerprints.mp he
    rw [ofList_bucket_windows] at h₂ hc hsame ⊢
    obtain ⟨first, hfirst⟩ := List.exists_mem_of_length_pos (Nat.lt_of_lt_of_le Nat.two_pos h₂)
    have hw : ∀ a, Fits files size a → Digest.hashWindow (textOf files size a) =
        Digest.hashWindow (textOf files size first) →
          textOf files size a = textOf files size first := by
      intro a ha hh
      refine hsame a (mem_bucket_windows.mpr ⟨ha, ?_⟩) first hfirst
      rw [hh, (mem_bucket_windows.mp hfirst).2]
    refine ⟨h₂, hc, textOf files size first, ?_, hw⟩
    rw [← bucket_eq_occurrences hw, (mem_bucket_windows.mp hfirst).2]
  · rintro ⟨h₂, hc, w, rfl, hw⟩
    obtain ⟨first, hfirst⟩ := List.exists_mem_of_length_pos (Nat.lt_of_lt_of_le Nat.two_pos h₂)
    obtain ⟨hfit, rfl⟩ := mem_occurrences.mp hfirst
    refine ⟨_, mem_fingerprints.mpr ⟨first, hfit, rfl⟩, ?_, verdictOf_eq_confirmed.mpr ⟨h₂, hc, ?_⟩⟩
    · rw [ofList_bucket_windows, bucket_eq_occurrences hw]
    · intro a ha c hc
      rw [(mem_occurrences.mp ha).2, (mem_occurrences.mp hc).2]

theorem fits_of_mem_confirmedSets (h : s ∈ confirmedSets size ceiling files) (ha : a ∈ s) :
    Fits files size a := by
  obtain ⟨-, -, w, rfl, -⟩ := mem_confirmedSets.mp h
  exact (mem_occurrences.mp ha).1

theorem pairwise_of_mem_confirmedSets (h : s ∈ confirmedSets size ceiling files) :
    s.Pairwise (· < ·) := by
  obtain ⟨-, -, w, rfl, -⟩ := mem_confirmedSets.mp h
  exact pairwise_occurrences size files w

end SourceCensus.Duplication
