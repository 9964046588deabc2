import SourceCensus.Proofs.Text.Cells
import SourceCensus.Report.Marked
import SourceCensus.Text.Emoji

/-! # Joiners in texts with emoji -/

namespace SourceCensus.Report

open Text

variable {s t emoji code : List Char}

def PrintsUnpaired (s : List Char) : Prop :=
  IsUnpaired (s.filter (! isUnprinted ·))

theorem printsUnpaired_of_not_mem (h : joiner ∉ s) : PrintsUnpaired s :=
  isUnpaired_of_not_mem fun hmem => h (List.mem_of_mem_filter hmem)

instance : DecidablePred PrintsUnpaired := fun s =>
  inferInstanceAs (Decidable (IsUnpaired (s.filter (! isUnprinted ·))))

theorem PrintsUnpaired.append_of_not_mem (h : PrintsUnpaired s) (ht : joiner ∉ t) :
    PrintsUnpaired (s ++ t) := by
  rw [PrintsUnpaired, List.filter_append]
  exact IsUnpaired.append_of_not_mem h fun hmem => ht (List.mem_of_mem_filter hmem)

theorem PrintsUnpaired.of_not_mem_append (ht : PrintsUnpaired t) (h : joiner ∉ s) :
    PrintsUnpaired (s ++ t) := by
  rw [PrintsUnpaired, List.filter_append]
  exact IsUnpaired.of_not_mem_append ht fun hmem => h (List.mem_of_mem_filter hmem)

/-- Behind every character, no joiners meet in the second text as it is printed where none meet in
the first one. -/
def KeepsUnpaired (s t : List Char) : Prop :=
  ∀ c, IsUnpaired (c :: s.filter (! isUnprinted ·)) → IsUnpaired (c :: t.filter (! isUnprinted ·))

theorem KeepsUnpaired.cons (h : KeepsUnpaired s t) (c : Char) : KeepsUnpaired (c :: s) (c :: t) := by
  intro before hs
  cases hc : isUnprinted c with
  | false =>
    simp only [List.filter_cons, hc, Bool.not_false, if_true] at hs ⊢
    obtain ⟨hfirst, hrest⟩ := List.isChain_cons_cons.mp hs
    exact List.isChain_cons_cons.mpr ⟨hfirst, h c hrest⟩
  | true =>
    simp only [List.filter_cons, hc, Bool.not_true, Bool.false_eq_true, if_false] at hs ⊢
    exact h before hs

theorem KeepsUnpaired.append (h : KeepsUnpaired s t) (front : List Char) :
    KeepsUnpaired (front ++ s) (front ++ t) := by
  induction front with
  | nil => exact h
  | cons c front ih => exact ih.cons c

theorem PrintsUnpaired.of_keeps (hs : PrintsUnpaired s) (h : KeepsUnpaired s t) :
    PrintsUnpaired t := by
  have hblank : joiner ∉ [' '] := by decide
  exact (h ' ' (IsUnpaired.of_not_mem_append hs hblank)).of_isInfix (List.suffix_cons _ _).isInfix

/-- A text that meets no joiner, whatever stands around it. -/
def StandsAlone (s : List Char) : Prop :=
  IsUnpaired (joiner :: s.filter (! isUnprinted ·) ++ [joiner])

instance : DecidablePred StandsAlone := fun s =>
  inferInstanceAs (Decidable (IsUnpaired (joiner :: s.filter (! isUnprinted ·) ++ [joiner])))

theorem StandsAlone.isUnpaired_append (h : StandsAlone s) (ht : PrintsUnpaired t) (c : Char) :
    IsUnpaired (c :: (s ++ t).filter (! isUnprinted ·)) := by
  rw [List.filter_append]
  obtain ⟨hfront, -, hlast⟩ := List.isChain_append.mp h
  cases hs : s.filter (! isUnprinted ·) with
  | nil =>
    rw [hs] at hlast
    exact absurd ⟨rfl, rfl⟩ (hlast joiner (by simp) joiner (by simp))
  | cons d rest =>
    rw [hs] at hfront hlast
    obtain ⟨hd, hrest⟩ := List.isChain_cons_cons.mp hfront
    have hcons : IsUnpaired (c :: d :: rest) :=
      List.isChain_cons_cons.mpr ⟨fun hboth => hd ⟨rfl, hboth.2⟩, hrest⟩
    exact List.isChain_append.mpr ⟨hcons, ht, fun x hx _ _ hboth =>
      hlast x hx joiner rfl ⟨hboth.1, rfl⟩⟩

theorem StandsAlone.append_of_not_mem (h : StandsAlone s) (ht : joiner ∉ t) : StandsAlone (s ++ t) := by
  have hjoiner : PrintsUnpaired [joiner] := by decide
  have hend : PrintsUnpaired (t ++ [joiner]) := hjoiner.of_not_mem_append ht
  have happend := h.isUnpaired_append hend joiner
  rwa [← List.append_assoc, List.filter_append] at happend

theorem standsAlone_of_mem_emojiTable {entry : String × List Char} (h : entry ∈ emojiTable) :
    StandsAlone entry.2 := by
  have hall : emojiTable.all (fun entry => decide (StandsAlone entry.2)) = true := by
    decide +kernel
  exact of_decide_eq_true (List.all_eq_true.mp hall entry h)

theorem joiner_not_mem_codeParts (code : List Char) : joiner ∉ (codeParts code).2 := by
  unfold codeParts
  split_ifs
  · exact (by decide : joiner ∉ ['\uFE0F'])
  · exact (by decide : joiner ∉ ['\uFE0E'])
  · exact List.not_mem_nil

theorem standsAlone_of_emojiOf? (h : emojiOf? code = some emoji) : StandsAlone emoji := by
  obtain ⟨shape, hlookup, rfl⟩ := Option.map_eq_some_iff.mp h
  obtain ⟨front, rest, htable, -⟩ := List.lookup_eq_some_iff.mp hlookup
  have hmem : (String.ofList (lower (codeParts code).1), shape) ∈ emojiTable := by
    rw [htable]
    exact List.mem_append_right _ List.mem_cons_self
  exact (standsAlone_of_mem_emojiTable hmem).append_of_not_mem (joiner_not_mem_codeParts code)

/-- An emoji and its code both part what stands around them. -/
theorem KeepsUnpaired.atCode (h : KeepsUnpaired s t) (code : List Char) :
    KeepsUnpaired (':' :: code ++ ':' :: s) ((emojiOf? code).getD (':' :: code ++ [':']) ++ t) := by
  cases hemoji : emojiOf? code with
  | none =>
    have hcode := h.append (':' :: code ++ [':'])
    rwa [List.append_assoc _ [':'] s] at hcode
  | some emoji =>
    intro c hs
    have hrest : PrintsUnpaired s := by
      refine hs.of_isInfix (List.IsSuffix.isInfix ?_)
      have hsuffix : s <:+ ':' :: code ++ ':' :: s :=
        (List.suffix_cons ':' s).trans (List.suffix_append _ _)
      exact (hsuffix.filter _).trans (List.suffix_cons c _)
    exact (standsAlone_of_emojiOf? hemoji).isUnpaired_append (hrest.of_keeps h) c

/-- Putting emoji in the place of their codes makes no joiners meet. -/
theorem keepsUnpaired_withEmoji (s : List Char) : KeepsUnpaired s (withEmoji s) := by
  induction s using withEmoji.induct with
  | case1 =>
    rw [withEmoji]
    exact fun _ => id
  | case2 c rest code after hcode ih =>
    rw [withEmoji_of_readCode? hcode, eq_of_readCode? hcode]
    exact ih.atCode code
  | case3 c rest hcode ih =>
    rw [withEmoji_cons_of_none hcode]
    exact ih.cons c

end SourceCensus.Report
