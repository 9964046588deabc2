import Mathlib.Data.List.Induction
import SourceCensus.Proofs.Duplication.ConfirmedSets

/-! # The index of all windows -/

namespace SourceCensus.Duplication

variable {files : List CodeFile} {k : Int} {a : Location} {w : Window} {all : List Window}
  {entries : List (UInt64 × List Location)}

/-- The index with one more window. -/
def enter (w : Window) : List (UInt64 × List Location) → List (UInt64 × List Location)
  | [] => [(w.hash, [w.location])]
  | (hash, s) :: rest =>
    if hash = w.hash then (hash, s ++ [w.location]) :: rest else (hash, s) :: enter w rest

def held (entry : UInt64 × List Location) : List Window :=
  entry.2.map (Window.mk entry.1)

section Buckets

theorem bucket_concat (all : List Window) (w : Window) (hash : UInt64) :
    bucket (all ++ [w]) hash = bucket all hash ++ if w.hash = hash then [w.location] else [] := by
  rw [bucket, bucket, List.filter_append, List.map_append]
  by_cases h : w.hash = hash <;> simp [h]

theorem bucket_eq_nil {hash : UInt64} (h : hash ∉ all.map (·.hash)) : bucket all hash = [] := by
  rw [bucket, List.map_eq_nil_iff, List.filter_eq_nil_iff]
  intro v hv hhash
  exact h (List.mem_map.mpr ⟨v, hv, beq_iff_eq.mp hhash⟩)

private theorem enter_map_bucket {hashes : List UInt64} (hnodup : hashes.Nodup)
    (hnew : w.hash ∉ hashes → bucket all w.hash = []) :
    enter w (hashes.map fun hash => (hash, bucket all hash)) =
      (if w.hash ∈ hashes then hashes else hashes ++ [w.hash]).map
        fun hash => (hash, bucket (all ++ [w]) hash) := by
  induction hashes with
  | nil => simp [enter, bucket_concat, hnew List.not_mem_nil]
  | cons hash hashes ih =>
    obtain ⟨hhash, hnodup⟩ := List.nodup_cons.mp hnodup
    rw [List.map_cons, enter]
    by_cases heq : hash = w.hash
    · subst heq
      rw [if_pos rfl, if_pos List.mem_cons_self, List.map_cons, bucket_concat, if_pos rfl]
      congr 1
      apply List.map_congr_left
      intro other hother
      rw [bucket_concat, if_neg, List.append_nil]
      rintro rfl
      exact hhash hother
    · have hother : bucket (all ++ [w]) hash = bucket all hash := by
        rw [bucket_concat, if_neg (Ne.symm heq), List.append_nil]
      have hmem : w.hash ∈ hash :: hashes ↔ w.hash ∈ hashes := by
        rw [List.mem_cons, or_iff_right (Ne.symm heq)]
      rw [if_neg heq, ih hnodup fun h => hnew fun h' => h (hmem.mp h')]
      simp only [hmem]
      split_ifs <;> simp [hother]

theorem buckets_concat (all : List Window) (w : Window) :
    buckets (all ++ [w]) = enter w (buckets all) := by
  rw [buckets, buckets, enter_map_bucket (Sequence.nodup_eraseDups _), List.map_append,
    List.map_singleton, Sequence.eraseDups_concat]
  · simp only [List.mem_eraseDups]
  · intro h
    exact bucket_eq_nil fun hmem => h (List.mem_eraseDups.mpr hmem)

theorem buckets_eq_foldl (all : List Window) :
    buckets all = all.foldl (fun entries w => enter w entries) [] := by
  induction all using List.reverseRecOn with
  | nil => rfl
  | append_singleton all w ih =>
    rw [List.foldl_append, ← ih, buckets_concat, List.foldl_cons, List.foldl_nil]

/-- Entering a window opens a bucket behind the others or makes one longer. -/
theorem enter_cases (w : Window) (entries : List (UInt64 × List Location)) :
    (w.hash ∉ entries.map (·.1) ∧ enter w entries = entries ++ [(w.hash, [w.location])]) ∨
    ∃ before s behind, entries = before ++ (w.hash, s) :: behind ∧
      enter w entries = before ++ (w.hash, s ++ [w.location]) :: behind := by
  induction entries with
  | nil => exact .inl ⟨List.not_mem_nil, rfl⟩
  | cons entry rest ih =>
    obtain ⟨hash, s⟩ := entry
    rw [enter]
    split_ifs with heq
    · subst heq
      exact .inr ⟨[], s, rest, rfl, rfl⟩
    · rcases ih with ⟨hnew, hrest⟩ | ⟨before, t, behind, rfl, hrest⟩
      · refine .inl ⟨?_, by rw [hrest, List.cons_append]⟩
        rw [List.map_cons, List.mem_cons, not_or]
        exact ⟨Ne.symm heq, hnew⟩
      · exact .inr ⟨(hash, s) :: before, t, behind, rfl, by rw [hrest, List.cons_append]⟩

end Buckets

/-- What holds of an index after the windows `all` have been entered in the order of their
locations. -/
structure Filled (all : List Window) (entries : List (UInt64 × List Location)) : Prop where
  keys_nodup : (entries.map (·.1)).Nodup
  held_perm : (entries.flatMap held).Perm all
  ne_nil : ∀ entry ∈ entries, entry.2 ≠ []
  increasing : ∀ entry ∈ entries, entry.2.Pairwise (· < ·)
  firsts_increasing : (entries.filterMap (·.2.head?)).Pairwise (· < ·)

namespace Filled

theorem mem_all (h : Filled all entries) {entry : UInt64 × List Location} (he : entry ∈ entries)
    (ha : a ∈ entry.2) : ⟨entry.1, a⟩ ∈ all :=
  h.held_perm.mem_iff.mp (List.mem_flatMap.mpr ⟨entry, he, List.mem_map.mpr ⟨a, ha, rfl⟩⟩)

theorem nil : Filled [] [] where
  keys_nodup := List.nodup_nil
  held_perm := List.Perm.refl []
  ne_nil _ h := absurd h List.not_mem_nil
  increasing _ h := absurd h List.not_mem_nil
  firsts_increasing := List.Pairwise.nil

/-- A window that lies behind all others is entered. -/
theorem enter (h : Filled all entries) (hlast : ∀ v ∈ all, v.location < w.location) :
    Filled (all ++ [w]) (enter w entries) := by
  have hperm {held' : List Window} (h' : held'.Perm (entries.flatMap held ++ [w])) :
      held'.Perm (all ++ [w]) := h'.trans (h.held_perm.append_right [w])
  have hbehind : ∀ entry ∈ entries, ∀ a ∈ entry.2, a < w.location :=
    fun entry he a ha => hlast _ (h.mem_all he ha)
  rcases enter_cases w entries with ⟨hnew, henter⟩ | ⟨before, s, behind, rfl, henter⟩
  · rw [henter]
    constructor
    · rw [List.map_append, List.map_singleton]
      refine List.nodup_append.mpr ⟨h.keys_nodup, List.nodup_singleton _, ?_⟩
      intro hash hhash other hother heq
      rw [heq, List.mem_singleton.mp hother] at hhash
      exact hnew hhash
    · apply hperm
      rw [List.flatMap_append]
      rfl
    · exact List.forall_mem_append.mpr ⟨h.ne_nil, by simp⟩
    · exact List.forall_mem_append.mpr ⟨h.increasing, by simp⟩
    · rw [List.filterMap_append]
      refine List.pairwise_append.mpr ⟨h.firsts_increasing, by simp, ?_⟩
      intro a ha b hb
      obtain ⟨entry, he, hfirst⟩ := List.mem_filterMap.mp ha
      obtain rfl : b = w.location := by simpa using hb
      exact hbehind entry he a (List.mem_of_mem_head? hfirst)
  · rw [henter]
    have hs : ∀ a ∈ s, a < w.location := hbehind (w.hash, s) (by simp)
    obtain ⟨hne_before, hne, hne_behind⟩ := by
      simpa only [List.forall_mem_append, List.forall_mem_cons] using h.ne_nil
    obtain ⟨hinc_before, hinc, hinc_behind⟩ := by
      simpa only [List.forall_mem_append, List.forall_mem_cons] using h.increasing
    constructor
    · simpa using h.keys_nodup
    · apply hperm
      simp only [List.flatMap_append, List.flatMap_cons, held, List.map_append, List.append_assoc]
      exact (List.perm_append_comm.append_left _).append_left _
    · simpa only [List.forall_mem_append, List.forall_mem_cons] using
        ⟨hne_before, by simp, hne_behind⟩
    · simp only [List.forall_mem_append, List.forall_mem_cons]
      refine ⟨hinc_before, List.pairwise_append.mpr ⟨hinc, by simp, ?_⟩, hinc_behind⟩
      intro a ha b hb
      rw [List.mem_singleton.mp hb]
      exact hs a ha
    · have hhead : (s ++ [w.location]).head? = s.head? := List.head?_append_of_ne_nil _ hne
      simpa only [List.filterMap_append, List.filterMap_cons, hhead] using h.firsts_increasing

theorem buckets (h : (all.map (·.location)).Pairwise (· < ·)) : Filled all (buckets all) := by
  induction all using List.reverseRecOn with
  | nil => exact nil
  | append_singleton all w ih =>
    rw [List.map_append, List.pairwise_append] at h
    obtain ⟨hall, -, hlast⟩ := h
    rw [buckets_concat]
    apply (ih hall).enter
    intro v hv
    exact hlast _ (List.mem_map_of_mem hv) _ (by simp)

/-- The locations of all buckets are those of the windows that were entered. -/
theorem locations_perm (h : Filled all entries) :
    (entries.flatMap (·.2)).Perm (all.map (·.location)) := by
  have hlocations : (entries.flatMap held).map (·.location) = entries.flatMap (·.2) := by
    simp [List.map_flatMap, held, Function.comp_def]
  rw [← hlocations]
  exact h.held_perm.map _

end Filled

theorem map_location_windows (k : Int) (files : List CodeFile) :
    (windows k files).map (·.location) = places k files := by
  simp [windows_eq, Function.comp_def]

theorem filled_fingerprints (k : Int) (files : List CodeFile) :
    Filled (windows k files) (fingerprints k files) := by
  apply Filled.buckets
  rw [map_location_windows]
  exact pairwise_places k files

/-- What the index of a project holds. -/
structure HoldsWindows (files : List CodeFile) (k : Int) (entries : List (UInt64 × List Location)) :
    Prop where
  /-- No hash has two buckets. -/
  keys_nodup : (entries.map (·.1)).Nodup
  /-- A location is in a bucket exactly when a window starts there, -/
  mem_iff : ∀ a : Location, (∃ entry ∈ entries, a ∈ entry.2) ↔ Fits files k a
  /-- and then it is in one bucket only and only once there, -/
  count_eq_one : ∀ a : Location, Fits files k a → (entries.flatMap (·.2)).count a = 1
  /-- and the key of this bucket is the hash of the window. -/
  key_eq : ∀ entry ∈ entries, ∀ a ∈ entry.2, entry.1 = Digest.hashWindow (textOf files k a)
  ne_nil : ∀ entry ∈ entries, entry.2 ≠ []
  increasing : ∀ entry ∈ entries, entry.2.Pairwise (· < ·)
  /-- The buckets stand in the order of their first locations. -/
  firsts_increasing : (entries.filterMap (·.2.head?)).Pairwise (· < ·)
  total_sizes : Sequence.total (entries.map fun entry => (entry.2.length : Int)) =
    Sequence.total (files.map fun file => max 0 ((file.lines.length : Int) - k + 1))

/-- The index of all windows of `k` lines is what entering them makes, file after file.  Its buckets
have different hashes.  A location is in one of them exactly when `k` lines stand there in its file,
and then it is in one bucket, once, under the hash of the texts of these lines.  Every bucket is
increasing and not empty, the buckets stand in the order of their first locations, and they hold as
many locations as there are windows in the files. -/
theorem index_holds_every_window (k : Int) (files : List CodeFile) :
    (index k files).outcome =
      .ok ((windows k files).foldl (fun entries w => enter w entries) []) ∧
    HoldsWindows files k ((windows k files).foldl (fun entries w => enter w entries) []) := by
  have hfilled := filled_fingerprints k files
  have hlocations := hfilled.locations_perm
  rw [map_location_windows] at hlocations
  rw [← buckets_eq_foldl]
  refine ⟨outcome_index k files, hfilled.keys_nodup, fun a => ?_, fun a ha => ?_, fun entry he a ha => ?_,
    hfilled.ne_nil, hfilled.increasing, hfilled.firsts_increasing, ?_⟩
  · rw [← mem_places, ← hlocations.mem_iff, List.mem_flatMap]
    rfl
  · have hnodup := LocationSet.nodup_of_pairwise_lt (pairwise_places k files)
    rw [← mem_places] at ha
    exact (hlocations.count_eq a).trans (List.count_eq_one_of_mem hnodup ha)
  · have hwindow := hfilled.mem_all he ha
    rw [windows_eq] at hwindow
    obtain ⟨c, -, hc⟩ := List.mem_map.mp hwindow
    obtain ⟨hkey, rfl⟩ := Window.mk.inj hc
    exact hkey.symm
  · rw [Sequence.total_map_length, ← length_places]
    exact congrArg _ hlocations.length_eq

end SourceCensus.Duplication
