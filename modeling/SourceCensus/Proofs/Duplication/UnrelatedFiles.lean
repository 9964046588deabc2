import SourceCensus.Duplication.Metrics
import SourceCensus.Proofs.Duplication.DetectedBlocks

/-! # Unrelated files -/

namespace SourceCensus.Duplication

open LocationSet (shift)

variable {part project files others : List CodeFile} {k m size : Int} {n : Nat} {a b : Location}
  {s t start : LocationSet} {last : Nat}

def Location.moved (n : Nat) (a : Location) : Location :=
  ⟨a.file + n, a.offset⟩

def LocationSet.moved (n : Nat) (s : LocationSet) : LocationSet :=
  s.map (Location.moved n)

def Block.moved (n : Nat) (b : Block) : Block :=
  ⟨b.start.moved n, b.size⟩

theorem Location.moved_injective (n : Nat) : Function.Injective (Location.moved n) := by
  rintro ⟨i, o⟩ ⟨j, p⟩ h
  simp only [moved, mk.injEq] at h ⊢
  omega

namespace LocationSet

theorem mem_moved : a.moved n ∈ moved n s ↔ a ∈ s :=
  List.mem_map_of_injective (Location.moved_injective n)

theorem moved_injective (n : Nat) : Function.Injective (moved n) :=
  List.map_injective_iff.mpr (Location.moved_injective n)

@[simp] theorem length_moved : (moved n s).length = s.length :=
  List.length_map _

theorem shift_moved (d : Int) (n : Nat) (s : LocationSet) :
    shift d (moved n s) = moved n (shift d s) := by
  simp [shift, moved, Location.shift, Location.moved]

theorem pairwise_moved (h : s.Pairwise (· < ·)) (n : Nat) : (moved n s).Pairwise (· < ·) := by
  refine List.pairwise_map.mpr (h.imp ?_)
  intro a b hab
  simp only [Location.lt_def, Location.moved] at hab ⊢
  omega

theorem moved_lt_moved (h : s < t) (n : Nat) : moved n s < moved n t := by
  induction h with
  | nil => exact List.Lex.nil
  | cons _ ih => exact List.Lex.cons ih
  | rel hab =>
    refine List.Lex.rel ?_
    simp only [Location.lt_def, Location.moved] at hab ⊢
    omega

end LocationSet

def HeldFrom (n : Nat) (part project : List CodeFile) : Prop :=
  ∀ (i : Nat) (file : CodeFile), part[i]? = some file → project[i + n]? = some file

namespace HeldFrom

variable (h : HeldFrom n part project)
include h

theorem fileAt_moved (ha : Fits part size a) : fileAt project (a.moved n) = fileAt part a := by
  obtain ⟨⟨h₀, h₁⟩, file, hf, -⟩ := ha
  have hindex : (a.moved n).file.toNat = a.file.toNat + n := by
    simp only [Location.moved]
    omega
  have hfile : project[(a.moved n).file.toNat]? = some file := by rw [hindex, h _ _ hf]
  have hplaced : (a.moved n).Placed := ⟨by simp only [Location.moved]; omega, h₁⟩
  rw [fileAt_eq_ok ⟨h₀, h₁⟩ hf, fileAt_eq_ok hplaced hfile]

theorem textOf_moved (ha : Fits part size a) (l : Int) :
    textOf project l (a.moved n) = textOf part l a := by
  rw [textOf, textOf, linesAt, linesAt, h.fileAt_moved ha]
  rfl

theorem occurrenceOf_moved (ha : Fits part size a) :
    occurrenceOf project size (a.moved n) = occurrenceOf part size a := by
  rw [occurrenceOf, occurrenceOf, occurrenceAt, occurrenceAt, h.fileAt_moved ha]
  rfl

theorem fits_moved (ha : Fits part size a) : Fits project size (a.moved n) := by
  obtain ⟨⟨h₀, h₁⟩, file, hf, hl⟩ := ha
  refine ⟨⟨by simp only [Location.moved]; omega, h₁⟩, file, ?_, hl⟩
  rw [← h _ _ hf]
  congr 1
  simp only [Location.moved]
  omega

/-- What fits at a place in the files of the part fits there in the part. -/
theorem fits_of_moved (h₀ : 0 ≤ a.file) (hlt : a.file < part.length)
    (ha : Fits project size (a.moved n)) : Fits part size a := by
  obtain ⟨⟨-, h₁⟩, file, hf, hl⟩ := ha
  obtain ⟨file', hfile'⟩ : ∃ file', part[a.file.toNat]? = some file' :=
    ⟨_, List.getElem?_eq_getElem (by omega)⟩
  have hf' := h _ _ hfile'
  have hindex : (a.moved n).file.toNat = a.file.toNat + n := by
    simp only [Location.moved]
    omega
  rw [hindex, hf'] at hf
  obtain rfl := Option.some.inj hf
  exact ⟨⟨h₀, h₁⟩, file', hfile', hl⟩

/-- A block of the part is reported as the same group in the project. -/
theorem group_moved {b : Block} (hrep : b.Repeats part) :
    (b.moved n).group project = b.group part := by
  obtain ⟨first, rest, hstart⟩ := List.exists_cons_of_ne_nil hrep.ne_nil
  have hoccurrences : (b.start.moved n).map (occurrenceOf project b.size) =
      b.start.map (occurrenceOf part b.size) := by
    rw [LocationSet.moved, List.map_map]
    exact List.map_congr_left fun a ha => h.occurrenceOf_moved (hrep.fits a ha)
  have hsample : textOf project (min b.size Group.sampleSize) (first.moved n) =
      textOf part (min b.size Group.sampleSize) first :=
    h.textOf_moved (hrep.fits first (by simp [hstart])) _
  simp only [Block.group, Block.moved, hoccurrences, LocationSet.length_moved]
  simp [hstart, LocationSet.moved, hsample]

end HeldFrom

/-- No window of the project outside of the files of `part` has the hash of a window in them. -/
structure Isolated (k : Int) (n : Nat) (part project : List CodeFile) : Prop where
  held : HeldFrom n part project
  apart : ∀ a, Fits project k a → (∃ b, Fits part k b ∧ b.moved n = a) ∨ ∀ b, Fits part k b →
    Digest.hashWindow (textOf project k a) ≠ Digest.hashWindow (textOf part k b)

namespace Isolated

variable (h : Isolated k n part project)
include h

/-- A text of the part stands in the project where it stands in the part. -/
theorem occurrences_moved (ha : Fits part k a) :
    occurrences k project (textOf part k a) = (occurrences k part (textOf part k a)).moved n := by
  apply LocationSet.eq_of_pairwise_lt (pairwise_occurrences k project _)
    (LocationSet.pairwise_moved (pairwise_occurrences k part _) n)
  intro c
  rw [mem_occurrences, LocationSet.moved, List.mem_map]
  constructor
  · rintro ⟨hc, htext⟩
    rcases h.apart c hc with ⟨b, hb, rfl⟩ | hdiffer
    · refine ⟨b, mem_occurrences.mpr ⟨hb, ?_⟩, rfl⟩
      rw [← h.held.textOf_moved hb, htext]
    · exact absurd (congrArg Digest.hashWindow htext) (hdiffer a ha)
  · rintro ⟨b, hb, rfl⟩
    obtain ⟨hfit, htext⟩ := mem_occurrences.mp hb
    exact ⟨h.held.fits_moved hfit, (h.held.textOf_moved hfit k).trans htext⟩

/-- A set with a location in the files of the part is confirmed in the project when it is confirmed
in the part. -/
theorem moved_mem_confirmedSets_iff (ha : a ∈ t) (h₀ : 0 ≤ a.file) (hlt : a.file < part.length) :
    t.moved n ∈ confirmedSets k m project ↔ t ∈ confirmedSets k m part := by
  by_cases hfit : Fits part k a
  · have hhash {w : List (List Char)} (hw : textOf part k a = w) :
        (∀ c, Fits project k c → Digest.hashWindow (textOf project k c) = Digest.hashWindow w →
          textOf project k c = w) ↔
        ∀ c, Fits part k c → Digest.hashWindow (textOf part k c) = Digest.hashWindow w →
          textOf part k c = w := by
      constructor
      · intro hall c hc
        rw [← h.held.textOf_moved hc]
        exact hall _ (h.held.fits_moved hc)
      · intro hall c hc heq
        rcases h.apart c hc with ⟨b, hb, rfl⟩ | hdiffer
        · rw [h.held.textOf_moved hb] at heq ⊢
          exact hall b hb heq
        · exact absurd (heq.trans (by rw [hw])) (hdiffer a hfit)
    rw [mem_confirmedSets, mem_confirmedSets, LocationSet.length_moved]
    refine and_congr_right fun _ => and_congr_right fun _ => exists_congr fun w => ?_
    constructor
    · rintro ⟨heq, hall⟩
      have hmem : a.moved n ∈ occurrences k project w := heq ▸ LocationSet.mem_moved.mpr ha
      have hw : textOf part k a = w := by
        rw [← (mem_occurrences.mp hmem).2, h.held.textOf_moved hfit]
      rw [← hw, h.occurrences_moved hfit, hw] at heq
      exact ⟨LocationSet.moved_injective n heq, (hhash hw).mp hall⟩
    · rintro ⟨rfl, hall⟩
      have hw : textOf part k a = w := (mem_occurrences.mp ha).2
      refine ⟨?_, (hhash hw).mpr hall⟩
      rw [← hw, h.occurrences_moved hfit]
  · constructor
    · intro hmem
      have hfits := fits_of_mem_confirmedSets hmem (LocationSet.mem_moved.mpr ha)
      exact absurd (h.held.fits_of_moved h₀ hlt hfits) hfit
    · intro hmem
      exact absurd (fits_of_mem_confirmedSets hmem ha) hfit

theorem maximalRun_moved_iff (ha : a ∈ t) (h₀ : 0 ≤ a.file) (hlt : a.file < part.length) :
    MaximalRun (confirmedSets k m project) (t.moved n) last ↔
      MaximalRun (confirmedSets k m part) t last := by
  have hshift (j : Int) : shift j (t.moved n) ∈ confirmedSets k m project ↔
      shift j t ∈ confirmedSets k m part := by
    rw [LocationSet.shift_moved]
    exact h.moved_mem_confirmedSets_iff (LocationSet.mem_shift.mpr ha) h₀ hlt
  constructor
  · intro hrun
    exact ⟨fun j hj => (hshift j).mp (hrun.mem j hj), fun hmem => hrun.before ((hshift _).mpr hmem),
      fun hmem => hrun.after ((hshift _).mpr hmem)⟩
  · intro hrun
    exact ⟨fun j hj => (hshift j).mpr (hrun.mem j hj), fun hmem => hrun.before ((hshift _).mp hmem),
      fun hmem => hrun.after ((hshift _).mp hmem)⟩

/-- A confirmed set that reaches into the part lies in it. -/
theorem exists_moved_eq (hs : s ∈ confirmedSets k m project) (hfit : Fits part k a)
    (ha : a.moved n ∈ s) : ∃ t, a ∈ t ∧ LocationSet.moved n t = s := by
  obtain ⟨-, -, w, rfl, -⟩ := mem_confirmedSets.mp hs
  obtain rfl : textOf part k a = w := by
    rw [← (mem_occurrences.mp ha).2, h.held.textOf_moved hfit]
  rw [h.occurrences_moved hfit] at ha ⊢
  exact ⟨_, LocationSet.mem_moved.mp ha, rfl⟩

end Isolated

theorem Location.moved_zero (a : Location) : a.moved 0 = a := by
  simp [moved]

@[simp] theorem LocationSet.moved_zero (s : LocationSet) : s.moved 0 = s := by
  have h : Location.moved 0 = id := funext Location.moved_zero
  rw [moved, h, List.map_id]

/-- No window of one project has the hash of a window of the other. -/
def Unrelated (k : Int) (files others : List CodeFile) : Prop :=
  ∀ w ∈ windows k files, ∀ w' ∈ windows k others, w.hash ≠ w'.hash

instance : Decidable (Unrelated k files others) :=
  inferInstanceAs (Decidable (∀ w ∈ windows k files, ∀ w' ∈ windows k others, w.hash ≠ w'.hash))

theorem fits_append : Fits (files ++ others) k a ↔
    Fits files k a ∨ ∃ b, Fits others k b ∧ b.moved files.length = a := by
  constructor
  · rintro ⟨⟨h₀, h₁⟩, file, hf, hl⟩
    rw [List.getElem?_append] at hf
    split at hf
    · exact .inl ⟨⟨h₀, h₁⟩, file, hf, hl⟩
    · refine .inr ⟨⟨a.file - files.length, a.offset⟩, ⟨⟨?_, h₁⟩, file, ?_, hl⟩, ?_⟩
      · simp only
        omega
      · rw [← hf]
        congr 1
        simp only
        omega
      · simp [Location.moved]
  · rintro (⟨hp, file, hf, hl⟩ | ⟨b, ⟨⟨h₀, h₁⟩, file, hf, hl⟩, rfl⟩)
    · refine ⟨hp, file, ?_, hl⟩
      rw [List.getElem?_append_left (List.getElem?_eq_some_iff.mp hf).1, hf]
    · have hindex : (b.moved files.length).file.toNat = files.length + b.file.toNat := by
        simp only [Location.moved]
        omega
      refine ⟨⟨by simp only [Location.moved]; omega, h₁⟩, file, ?_, hl⟩
      rw [hindex, List.getElem?_append_right (by omega), Nat.add_sub_cancel_left, hf]

theorem Fits.file_lt (h : Fits files size a) : a.file < files.length := by
  obtain ⟨⟨h₀, -⟩, file, hf, -⟩ := h
  have hlt := (List.getElem?_eq_some_iff.mp hf).1
  omega

theorem lt_moved_of_mem_confirmedSets (hs : s ∈ confirmedSets k m files)
    (ht : t ∈ confirmedSets k m others) : s < LocationSet.moved files.length t := by
  obtain ⟨a, s, rfl⟩ := List.exists_cons_of_ne_nil (placed_confirmedSets k m files _ hs).1
  obtain ⟨b, t, rfl⟩ := List.exists_cons_of_ne_nil (placed_confirmedSets k m others _ ht).1
  have ha := (fits_of_mem_confirmedSets hs List.mem_cons_self).file_lt
  have hb := (fits_of_mem_confirmedSets ht List.mem_cons_self).placed.1
  refine List.Lex.rel (.inl ?_)
  simp only [Location.moved]
  omega

theorem unrelated_iff : Unrelated k files others ↔ ∀ a, Fits files k a → ∀ b, Fits others k b →
    Digest.hashWindow (textOf files k a) ≠ Digest.hashWindow (textOf others k b) := by
  simp only [Unrelated, windows_eq, List.forall_mem_map, mem_places]

theorem heldFrom_append_left (files others : List CodeFile) :
    HeldFrom 0 files (files ++ others) := by
  intro i file hf
  rw [Nat.add_zero, List.getElem?_append_left (List.getElem?_eq_some_iff.mp hf).1, hf]

theorem heldFrom_append_right (files others : List CodeFile) :
    HeldFrom files.length others (files ++ others) := by
  intro i file hf
  rw [List.getElem?_append_right (by omega), Nat.add_sub_cancel, hf]

namespace Unrelated

variable (h : Unrelated k files others)
include h

theorem isolated_left : Isolated k 0 files (files ++ others) where
  held := heldFrom_append_left files others
  apart := by
    intro a ha
    rcases fits_append.mp ha with ha | ⟨b, hb, rfl⟩
    · exact .inl ⟨a, ha, a.moved_zero⟩
    · refine .inr fun c hc => ?_
      rw [(heldFrom_append_right files others).textOf_moved hb]
      exact (unrelated_iff.mp h c hc b hb).symm

theorem isolated_right : Isolated k files.length others (files ++ others) where
  held := heldFrom_append_right files others
  apart := by
    intro a ha
    rcases fits_append.mp ha with ha | hb
    · refine .inr fun c hc => ?_
      have htext := (heldFrom_append_left files others).textOf_moved ha k
      rw [Location.moved_zero] at htext
      rw [htext]
      exact unrelated_iff.mp h a ha c hc
    · exact .inl hb

/-- The runs of two unrelated projects are those of the two together. -/
theorem maximalRun_append : MaximalRun (confirmedSets k m (files ++ others)) s last ↔
    MaximalRun (confirmedSets k m files) s last ∨
      ∃ t, MaximalRun (confirmedSets k m others) t last ∧ LocationSet.moved files.length t = s := by
  constructor
  · intro hrun
    obtain ⟨a, ha⟩ := List.exists_mem_of_ne_nil _ hrun.start_ne_nil
    rcases fits_append.mp (fits_of_mem_confirmedSets hrun.start_mem ha) with hfit | ⟨b, hfit, rfl⟩
    · left
      rwa [← h.isolated_left.maximalRun_moved_iff ha hfit.placed.1 hfit.file_lt,
        LocationSet.moved_zero]
    · obtain ⟨t, hb, rfl⟩ := h.isolated_right.exists_moved_eq hrun.start_mem hfit ha
      exact .inr ⟨t, (h.isolated_right.maximalRun_moved_iff hb hfit.placed.1 hfit.file_lt).mp hrun,
        rfl⟩
  · rintro (hrun | ⟨t, hrun, rfl⟩)
    · obtain ⟨a, ha⟩ := List.exists_mem_of_ne_nil _ hrun.start_ne_nil
      have hfit := fits_of_mem_confirmedSets hrun.start_mem ha
      rwa [← LocationSet.moved_zero s,
        h.isolated_left.maximalRun_moved_iff ha hfit.placed.1 hfit.file_lt]
    · obtain ⟨a, ha⟩ := List.exists_mem_of_ne_nil _ hrun.start_ne_nil
      have hfit := fits_of_mem_confirmedSets hrun.start_mem ha
      exact (h.isolated_right.maximalRun_moved_iff ha hfit.placed.1 hfit.file_lt).mpr hrun

/-- A search of unrelated projects together meets the blocks of the one and then those of the
other. -/
theorem loopBlocks_append :
    loopBlocks k m (files ++ others) (LocationSet.sorted (confirmedSets k m (files ++ others))) =
      loopBlocks k m files (LocationSet.sorted (confirmedSets k m files)) ++
        (loopBlocks k m others (LocationSet.sorted (confirmedSets k m others))).map
          (Block.moved files.length) := by
  have hmem (project : List CodeFile) {b : Block} :
      b ∈ loopBlocks k m project (LocationSet.sorted (confirmedSets k m project)) ↔
        ∃ last : Nat, b.size = k + last ∧ MaximalRun (confirmedSets k m project) b.start last :=
    mem_loopBlocks fun s => LocationSet.mem_sorted
  apply loopBlocks_eq_of_mem_iff
  · have hstart (project : List CodeFile) :=
      List.pairwise_map.mp (pairwise_start_loopBlocks k m project)
    refine List.pairwise_append.mpr ⟨hstart files, ?_, ?_⟩
    · exact List.pairwise_map.mpr ((hstart others).imp fun hlt => LocationSet.moved_lt_moved hlt _)
    · intro b hb _ hmoved
      obtain ⟨b', hb', rfl⟩ := List.mem_map.mp hmoved
      obtain ⟨_, -, hrun⟩ := (hmem files).mp hb
      obtain ⟨_, -, hrun'⟩ := (hmem others).mp hb'
      exact lt_moved_of_mem_confirmedSets hrun.start_mem hrun'.start_mem
  · intro b
    rw [List.mem_append, List.mem_map, hmem, hmem]
    simp only [h.maximalRun_append, hmem]
    constructor
    · rintro ⟨last, hsize, hrun | ⟨t, hrun, hstart⟩⟩
      · exact .inl ⟨last, hsize, hrun⟩
      · exact .inr ⟨⟨t, b.size⟩, ⟨last, hsize, hrun⟩, by rw [Block.moved, hstart]⟩
    · rintro (⟨last, hsize, hrun⟩ | ⟨b, ⟨last, hsize, hrun⟩, rfl⟩)
      · exact ⟨last, hsize, .inl hrun⟩
      · exact ⟨last, hsize, .inr ⟨b.start, hrun, rfl⟩⟩

end Unrelated

section Metrics

variable {groups groups' groups'' : List Group}

/-- Where the groups of two searches are the groups of the search of all the files, in whatever
order, the lines, the duplicated lines and the groups are added up. -/
theorem summarize_append (hgroups : groups''.Perm (groups ++ groups')) :
    (summarize (files ++ others) groups'').totalLines =
      (summarize files groups).totalLines + (summarize others groups').totalLines ∧
    (summarize (files ++ others) groups'').duplicatedLines =
      (summarize files groups).duplicatedLines + (summarize others groups').duplicatedLines ∧
    (summarize (files ++ others) groups'').groups =
      (summarize files groups).groups + (summarize others groups').groups := by
  have hlines := Sequence.total_eq_of_perm (hgroups.map Group.duplicatedLines)
  have hlength := hgroups.length_eq
  simp only [summarize]
  refine ⟨?_, ?_, ?_⟩
  · rw [List.map_append, Sequence.total_append]
  · rw [hlines, List.map_append, Sequence.total_append]
  · rw [hlength, List.length_append]
    push_cast
    rfl

end Metrics

/-- Unrelated projects report the same groups together as apart, in the order in which the searches
meet their blocks. -/
theorem Unrelated.map_group_loopBlocks_append (h : Unrelated k files others) (hk : 1 ≤ k) :
    (loopBlocks k m (files ++ others)
      (LocationSet.sorted (confirmedSets k m (files ++ others)))).map
        (Block.group (files ++ others)) =
    (loopBlocks k m files (LocationSet.sorted (confirmedSets k m files))).map (Block.group files) ++
      (loopBlocks k m others (LocationSet.sorted (confirmedSets k m others))).map
        (Block.group others) := by
  have hrep {project : List CodeFile} {b : Block}
      (hb : b ∈ loopBlocks k m project (LocationSet.sorted (confirmedSets k m project))) :
      b.Repeats project := repeats_of_mem_loopBlocks (fun s => LocationSet.mem_sorted.mp) hk hb
  rw [h.loopBlocks_append, List.map_append, List.map_map]
  congr 1
  · refine List.map_congr_left fun b hb => ?_
    have hgroup := (heldFrom_append_left files others).group_moved (hrep hb)
    rwa [Block.moved, LocationSet.moved_zero] at hgroup
  · exact List.map_congr_left fun b hb => (heldFrom_append_right files others).group_moved (hrep hb)

/-- Where two lists of files have no window hash in common, the groups of all the files are the
groups of the two, sorted together, and the totals of the metrics add up. -/
theorem detect_append_of_unrelated (settings : Settings) (files others : List CodeFile)
    (hk : 1 ≤ settings.minLines) (hm : 2 ≤ settings.maxOccurrences)
    (h : Unrelated settings.minLines files others) :
    ∃ groups groups' groups'', (detect settings files).outcome = .ok groups ∧
      (detect settings others).outcome = .ok groups' ∧
      (detect settings (files ++ others)).outcome = .ok groups'' ∧
      sortGroups (groups ++ groups') = .ok groups'' ∧
      (summarize (files ++ others) groups'').totalLines =
        (summarize files groups).totalLines + (summarize others groups').totalLines ∧
      (summarize (files ++ others) groups'').duplicatedLines =
        (summarize files groups).duplicatedLines + (summarize others groups').duplicatedLines ∧
      (summarize (files ++ others) groups'').groups =
        (summarize files groups).groups + (summarize others groups').groups := by
  have hgroups := h.map_group_loopBlocks_append (m := settings.maxOccurrences) hk
  have hkey {project : List CodeFile} {g : Group}
      (hg : g ∈ byKey ((loopBlocks settings.minLines settings.maxOccurrences project
        (LocationSet.sorted (confirmedSets settings.minLines settings.maxOccurrences project))).map
          (Block.group project))) : g.sortKey = .ok g.key := by
    obtain ⟨b, hb, rfl⟩ := List.mem_map.mp ((perm_byKey _).mem_iff.mp hg)
    exact (repeats_of_mem_loopBlocks (fun s => LocationSet.mem_sorted.mp) hk hb).sortKey_eq
  refine ⟨_, _, _, outcome_detect hk hm files, outcome_detect hk hm others,
    outcome_detect hk hm (files ++ others), ?_, ?_⟩
  · rw [hgroups, ← byKey_append_byKey]
    apply sortGroups_eq_ok
    intro g hg
    rcases List.mem_append.mp hg with hg | hg
    · exact hkey hg
    · exact hkey hg
  · apply summarize_append
    rw [hgroups]
    exact (perm_byKey _).trans ((perm_byKey _).symm.append (perm_byKey _).symm)

/-- A project without a text in common with the sample project: a line that stands in two files,
whose paths come before those of the sample project. -/
def unrelatedFiles : List CodeFile :=
  [⟨⟨.relative, ["Y"]⟩, [⟨3, ['u']⟩, ⟨4, ['v']⟩]⟩, ⟨⟨.relative, ["Z"]⟩, [⟨7, ['v']⟩]⟩]

theorem outcome_detect_unrelatedFiles : (detect sampleSettings unrelatedFiles).outcome =
    .ok [⟨[⟨"Y", 4, 4⟩, ⟨"Z", 7, 7⟩], 1, [['v']], .tolerable⟩] := by
  cbv

/-- The group of the unrelated project comes between those of the sample project: after the block of
two lines and before the other one of a single line. -/
theorem sampleFiles_append_unrelatedFiles : Unrelated 1 sampleFiles unrelatedFiles ∧
    (detect sampleSettings (sampleFiles ++ unrelatedFiles)).outcome = .ok [
      ⟨[⟨"a", 1, 2⟩, ⟨"b", 3, 5⟩], 2, [['x'], ['y']], .tolerable⟩,
      ⟨[⟨"Y", 4, 4⟩, ⟨"Z", 7, 7⟩], 1, [['v']], .tolerable⟩,
      ⟨[⟨"a", 4, 4⟩, ⟨"c", 2, 2⟩], 1, [['z']], .tolerable⟩] := by
  have h : Unrelated sampleSettings.minLines sampleFiles unrelatedFiles := by decide +kernel
  obtain ⟨groups, groups', groups'', hd, hd', hd'', hsort, -⟩ :=
    detect_append_of_unrelated sampleSettings sampleFiles unrelatedFiles (by decide) (by decide) h
  rw [outcome_detect_sampleFiles] at hd
  obtain rfl := Except.ok.inj hd
  rw [outcome_detect_unrelatedFiles] at hd'
  obtain rfl := Except.ok.inj hd'
  refine ⟨h, ?_⟩
  rw [hd'', ← hsort]
  cbv

end SourceCensus.Duplication
