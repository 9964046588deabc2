import SourceCensus.Proofs.Duplication.Findings
import SourceCensus.Proofs.Duplication.LineNumbers

/-! # What groups tell of files -/

namespace SourceCensus.Duplication

variable {files : List CodeFile} {k m : Int} {e : Emission} {a : Location} {line : CodeLine}

def IsLineOf (files : List CodeFile) (line : CodeLine) : Prop :=
  ∃ file ∈ files, line ∈ file.lines

/-- A group that is made of paths and lines of the files. -/
structure IsDrawnFrom (files : List CodeFile) (g : Group) : Prop where
  paths : ∀ o ∈ g.occurrences, ∃ file ∈ files, o.path = file.path.text
  first : ∀ o ∈ g.occurrences, ∃ line, IsLineOf files line ∧ o.firstLine = line.number
  last : ∀ o ∈ g.occurrences, ∃ line, IsLineOf files line ∧ o.lastLine = line.number
  sample : ∀ text ∈ g.sample, ∃ line, IsLineOf files line ∧ text = line.text

theorem isLineOf_of_lineAt? (h : lineAt? files a = some line) : IsLineOf files line := by
  obtain ⟨file, hfile, hline⟩ := Option.bind_eq_some_iff.mp h
  exact ⟨file, List.mem_of_getElem? hfile, List.mem_of_getElem? hline⟩

theorem isLineOf_of_mem_linesAt {size : Int} (ha : a.Placed) (hs : 0 ≤ size)
    (h : line ∈ linesAt files size a) : IsLineOf files line := by
  obtain ⟨i, hi⟩ := List.mem_iff_getElem?.mp h
  rw [getElem?_linesAt ha hs] at hi
  split at hi
  · exact isLineOf_of_lineAt? hi
  · cases hi

theorem isDrawnFrom_of_mem_emitted (hk : 1 ≤ k) (he : e ∈ emitted k m files) :
    IsDrawnFrom files e.group := by
  obtain ⟨b, rfl, last, hsize, hrun⟩ := mem_emitted.mp he
  have hrepeats : b.Repeats files := repeats_of_mem_emitted hk he
  have hnumbered : ∀ o ∈ (b.group files).occurrences, ∃ a, o.Numbered files b.size a := by
    intro o ho
    obtain ⟨a, ha, rfl⟩ := List.mem_map.mp ho
    exact ⟨a, (hrepeats.fits a ha).occurrenceOf_numbered hrepeats.pos⟩
  constructor
  · intro o ho
    obtain ⟨a, ⟨file, hfile, hpath⟩, -, -⟩ := hnumbered o ho
    exact ⟨file, List.mem_of_getElem? hfile, hpath⟩
  · intro o ho
    obtain ⟨a, -, hfirst, -⟩ := hnumbered o ho
    obtain ⟨line, hline, hnumber⟩ := Option.map_eq_some_iff.mp hfirst
    exact ⟨line, isLineOf_of_lineAt? hline, hnumber.symm⟩
  · intro o ho
    obtain ⟨a, -, -, hlast⟩ := hnumbered o ho
    obtain ⟨line, hline, hnumber⟩ := Option.map_eq_some_iff.mp hlast
    exact ⟨line, isLineOf_of_lineAt? hline, hnumber.symm⟩
  · intro text htext
    obtain ⟨first, rest, hs⟩ := List.exists_cons_of_ne_nil hrepeats.ne_nil
    have hsample : text ∈ textOf files (min b.size Group.sampleSize) first := by
      simpa [Block.group, hs] using htext
    obtain ⟨line, hline, rfl⟩ := List.mem_map.mp hsample
    have hplaced : first.Placed := (hrepeats.fits first (by simp [hs])).placed
    have hsize : 0 ≤ min b.size Group.sampleSize := by
      have hpos := hrepeats.pos
      simp only [Group.sampleSize]
      omega
    exact ⟨line, isLineOf_of_mem_linesAt hplaced hsize hline, rfl⟩

end SourceCensus.Duplication
