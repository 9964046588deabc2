import SourceCensus.Proofs.Report.CensusLines

/-! # Documents can be written -/

namespace SourceCensus.Report

open Duplication

namespace Document

variable {d : Document} {items : List Document} {fields : List (String × Document)}

/-- A document with small integers. -/
inductive IsSmall : Document → Prop where
  | integer {value : Int} (h : Report.IsSmall value) : IsSmall (.integer value)
  | real (value : Number.Binary64) : IsSmall (.real value)
  | text (value : List Char) : IsSmall (.text value)
  | list {items : List Document} (h : ∀ d ∈ items, IsSmall d) : IsSmall (.list items)
  | object {fields : List (String × Document)} (h : ∀ field ∈ fields, IsSmall field.2) :
    IsSmall (.object fields)

theorem exists_renderItems {level : Nat} (h : ∀ d ∈ items, ∃ text, render level d = .ok text) :
    ∃ texts, renderItems level items = .ok texts := by
  induction items with
  | nil => exact ⟨[], by rw [renderItems]; rfl⟩
  | cons d items ih =>
    obtain ⟨hown, hrest⟩ := List.forall_mem_cons.mp h
    rw [renderItems]
    exact exists_bind hown fun _ _ => exists_bind (ih hrest) fun _ _ => ⟨_, rfl⟩

theorem exists_renderFields {level : Nat}
    (h : ∀ field ∈ fields, ∃ text, render level field.2 = .ok text) :
    ∃ texts, renderFields level fields = .ok texts := by
  induction fields with
  | nil => exact ⟨[], by rw [renderFields]; rfl⟩
  | cons field fields ih =>
    obtain ⟨hown, hrest⟩ := List.forall_mem_cons.mp h
    rw [renderFields]
    exact exists_bind hown fun _ _ => exists_bind (ih hrest) fun _ _ => ⟨_, rfl⟩

theorem IsSmall.exists_render (h : d.IsSmall) (level : Nat) : ∃ text, render level d = .ok text := by
  induction h generalizing level with
  | integer h => exact ⟨_, by rw [render, writeInteger_of_isSmall h]; rfl⟩
  | real value => exact ⟨_, by rw [render]; rfl⟩
  | text value => exact ⟨_, by rw [render]; rfl⟩
  | list _ ih =>
    rw [render]
    exact exists_bind (exists_renderItems fun d hd => ih d hd _) fun _ _ => ⟨_, rfl⟩
  | object _ ih =>
    rw [render]
    exact exists_bind (exists_renderFields fun field hfield => ih field hfield _) fun _ _ => ⟨_, rfl⟩

theorem IsSmall.exists_documentText (h : d.IsSmall) : ∃ text, documentText d = .ok text := by
  obtain ⟨text, htext⟩ := h.exists_render 0
  exact ⟨String.ofList text, by rw [documentText, format, htext]; rfl⟩

theorem isSmall_object_nil : (object []).IsSmall :=
  .object fun _ h => absurd h List.not_mem_nil

theorem IsSmall.object_cons {key : String} (h : d.IsSmall)
    (hrest : (Document.object fields).IsSmall) : (Document.object ((key, d) :: fields)).IsSmall := by
  cases hrest with
  | object hrest => exact .object (List.forall_mem_cons.mpr ⟨h, hrest⟩)

end Document

section Reports

open Document (isSmall_object_nil)

variable {c : Census} {g : Group} {groups : List Group} {m : Metrics}

theorem isSmall_censusDocument (h : IsSmallCensus c) : (censusDocument c).IsSmall := by
  have hlanguage : ∀ l ∈ c.languages, (languageDocument l).IsSmall := by
    intro l hl
    obtain ⟨hfiles, htally⟩ := h.languages l hl
    exact .object_cons (.text _) <| .object_cons (.integer hfiles) <|
      .object_cons (.integer htally.blank) <| .object_cons (.integer htally.comment) <|
      .object_cons (.integer htally.code) isSmall_object_nil
  refine .object_cons (.list (List.forall_mem_map.mpr hlanguage)) <| .object_cons ?_ isSmall_object_nil
  exact .object_cons (.integer h.countedFiles) <| .object_cons (.integer h.totals.blank) <|
    .object_cons (.integer h.totals.comment) <| .object_cons (.integer h.totals.code)
    isSmall_object_nil

theorem isSmall_groupDocument (h : IsSmallGroup g) : (groupDocument g).IsSmall := by
  have hoccurrence : ∀ o ∈ g.occurrences, (occurrenceDocument o).IsSmall := fun o ho =>
    .object_cons (.text _) <| .object_cons (.integer (h.occurrences o ho).1) <|
      .object_cons (.integer (h.occurrences o ho).2) isSmall_object_nil
  have hsample : ∀ d ∈ g.sample.map Document.text, d.IsSmall :=
    List.forall_mem_map.mpr fun line _ => .text line
  exact .object_cons (.list (List.forall_mem_map.mpr hoccurrence)) <|
    .object_cons (.integer h.lineCount) <| .object_cons (.list hsample) <|
    .object_cons (.text _) <| .object_cons (.integer h.duplicatedLines) isSmall_object_nil

theorem exists_duplicationDocument (hm : IsSmallMetrics m) (h : ∀ g ∈ groups, IsSmallGroup g) :
    ∃ document, duplicationDocument m groups = .ok document ∧ document.IsSmall := by
  obtain ⟨percentage, hpercentage⟩ := exists_percentageOf hm.duplicatedLines
  have hgroups : ∀ d ∈ groups.map groupDocument, d.IsSmall :=
    List.forall_mem_map.mpr fun g hg => isSmall_groupDocument (h g hg)
  refine ⟨_, by rw [duplicationDocument, hpercentage]; rfl, .object_cons ?_ <|
    .object_cons (.list hgroups) isSmall_object_nil⟩
  exact .object_cons (.integer hm.totalLines) <| .object_cons (.integer hm.duplicatedLines) <|
    .object_cons (.real _) <| .object_cons (.integer hm.groups) <|
    .object_cons (.integer hm.files) <| .object_cons (.integer hm.largestBlock) <|
    .object_cons (.text _) isSmall_object_nil

end Reports

end SourceCensus.Report
