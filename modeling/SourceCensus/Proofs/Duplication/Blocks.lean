import SourceCensus.Duplication.Chain
import SourceCensus.Duplication.Group
import SourceCensus.Proofs.Duplication.LocationOrder
import SourceCensus.Proofs.Outcome

/-! # Blocks of lines at locations -/

namespace SourceCensus.Duplication

variable {files : List CodeFile} {size n k j : Int} {a b : Location}

def NumbersIncrease (files : List CodeFile) : Prop :=
  ∀ file ∈ files, file.lines.Pairwise (·.number < ·.number)

instance : Decidable (NumbersIncrease files) :=
  inferInstanceAs (Decidable (∀ file ∈ files, file.lines.Pairwise (·.number < ·.number)))

/-- Neither the file nor the offset of a location is counted from the end. -/
def Location.Placed (a : Location) : Prop :=
  0 ≤ a.file ∧ 0 ≤ a.offset

/-- The block of `size` lines at a location lies wholly inside its file. -/
def Fits (files : List CodeFile) (size : Int) (a : Location) : Prop :=
  a.Placed ∧ ∃ file, files[a.file.toNat]? = some file ∧ a.offset + size ≤ file.lines.length

def linesAt (files : List CodeFile) (size : Int) (a : Location) : List CodeLine :=
  match fileAt files a with
  | .ok file => file.block a.offset size
  | .error _ => []

def textOf (files : List CodeFile) (size : Int) (a : Location) : List (List Char) :=
  (linesAt files size a).map (·.text)

def lineAt? (files : List CodeFile) (a : Location) : Option CodeLine :=
  files[a.file.toNat]?.bind fun file => file.lines[a.offset.toNat]?

theorem textsAt_eq_ok {file : CodeFile} (h : fileAt files a = .ok file) :
    textsAt files size a = .ok (textOf files size a) := by
  simp [textsAt, textOf, linesAt, h, CodeFile.blockTexts]

theorem Location.Placed.shift (h : a.Placed) (hj : 0 ≤ j) : (a.shift j).Placed := by
  obtain ⟨h₀, h₁⟩ := h
  refine ⟨h₀, ?_⟩
  simp only [Location.shift]
  omega

theorem fileAt_eq_ok {file : CodeFile} (h : a.Placed) (hf : files[a.file.toNat]? = some file) :
    fileAt files a = .ok file := by
  simp [fileAt, Sequence.item?_of_nonneg files h.1, hf]

namespace Fits

theorem placed (h : Fits files size a) : a.Placed := h.1

theorem exists_fileAt (h : Fits files size a) : ∃ file, fileAt files a = .ok file := by
  obtain ⟨hp, file, hf, -⟩ := h
  exact ⟨file, fileAt_eq_ok hp hf⟩

theorem textsAt (h : Fits files size a) (n : Int) : textsAt files n a = .ok (textOf files n a) :=
  h.exists_fileAt.elim fun _ hf => textsAt_eq_ok hf

/-- A window inside a block that lies in its file lies there, too. -/
theorem shift (h : Fits files n a) (hj : 0 ≤ j) (hn : j + k ≤ n) :
    Fits files k (Location.shift j a) := by
  obtain ⟨hp, file, hf, hl⟩ := h
  refine ⟨hp.shift hj, file, hf, ?_⟩
  simp only [Location.shift]
  omega

/-- A block lies in its file when its first and its last window do. -/
theorem of_last_window (h : Fits files k a) (h' : Fits files k (Location.shift (n - k) a)) :
    Fits files n a := by
  obtain ⟨-, file, hf, hl⟩ := h'
  refine ⟨h.placed, file, hf, ?_⟩
  simp only [Location.shift] at hl
  omega

end Fits

theorem getElem?_linesAt (h : a.Placed) (hs : 0 ≤ size) (i : Nat) :
    (linesAt files size a)[i]? =
      if (i : Int) < size then lineAt? files (Location.shift i a) else none := by
  obtain ⟨h₀, h₁⟩ := h
  have hi : (a.offset + i).toNat = a.offset.toNat + i := by omega
  rw [linesAt, fileAt, Sequence.item?_of_nonneg files h₀, lineAt?, Location.shift, hi]
  cases hf : files[a.file.toNat]? with
  | none => simp
  | some file =>
    simp only [Option.bind_some, CodeFile.block, Sequence.slice_add_of_nonneg _ h₁ hs]
    rw [List.getElem?_take, List.getElem?_drop]
    by_cases h : (i : Int) < size
    · rw [if_pos h, if_pos (by omega)]
    · rw [if_neg h, if_neg (by omega)]

theorem Fits.length_linesAt (h : Fits files size a) (hs : 0 ≤ size) :
    ((linesAt files size a).length : Int) = size := by
  obtain ⟨hp, file, hf, hl⟩ := h
  have h₁ := hp.2
  rw [linesAt, fileAt_eq_ok hp hf]
  simp only [CodeFile.block, Sequence.slice_add_of_nonneg _ h₁ hs, List.length_take,
    List.length_drop]
  omega

theorem Fits.length_textOf (h : Fits files size a) (hs : 0 ≤ size) :
    ((textOf files size a).length : Int) = size := by
  rw [textOf, List.length_map, h.length_linesAt hs]

/-- The lines of a window are the lines of the block around it, cut out. -/
theorem linesAt_shift (h : a.Placed) (hj : 0 ≤ j) (hk : 0 ≤ k) (hn : j + k ≤ n) :
    linesAt files k (Location.shift j a) =
      ((linesAt files n a).drop j.toNat).take k.toNat := by
  apply List.ext_getElem?
  intro i
  rw [getElem?_linesAt (h.shift hj) hk, List.getElem?_take, List.getElem?_drop,
    getElem?_linesAt h (by omega), Location.shift_shift]
  by_cases hi : (i : Int) < k
  · have hji : (↑(j.toNat + i) : Int) = j + i := by omega
    rw [if_pos hi, if_pos (by omega), hji, if_pos (by omega)]
  · rw [if_neg hi, if_neg (by omega)]

theorem textOf_shift (h : a.Placed) (hj : 0 ≤ j) (hk : 0 ≤ k) (hn : j + k ≤ n) :
    textOf files k (Location.shift j a) = ((textOf files n a).drop j.toNat).take k.toNat := by
  rw [textOf, linesAt_shift h hj hk hn, textOf, List.map_take, List.map_drop]

theorem textOf_of_le (h : a.Placed) (hk : 0 ≤ k) (hn : k ≤ n) :
    textOf files k a = (textOf files n a).take k.toNat := by
  have hs : textOf files k (Location.shift 0 a) =
      ((textOf files n a).drop (0 : Int).toNat).take k.toNat :=
    textOf_shift h (Int.le_refl 0) hk (by omega)
  simpa using hs

private theorem getElem?_textOf (h : a.Placed) {i : Nat} (hi : (i : Int) < size) :
    (textOf files size a)[i]? = (lineAt? files (Location.shift i a)).map (·.text) := by
  rw [textOf, List.getElem?_map, getElem?_linesAt h (by omega), if_pos hi]

theorem textOf_eq_of_windows (ha : Fits files n a) (hb : Fits files n b) (hk : 1 ≤ k) (hkn : k ≤ n)
    (h : ∀ j, 0 ≤ j → j ≤ n - k →
      textOf files k (Location.shift j a) = textOf files k (Location.shift j b)) :
    textOf files n a = textOf files n b := by
  have hla := ha.length_textOf (by omega)
  have hlb := hb.length_textOf (by omega)
  apply List.ext_getElem?
  intro i
  by_cases hi : (i : Int) < n
  · let j : Int := min i (n - k)
    have hj : 0 ≤ j := by omega
    have hoff : j + (↑(i - j.toNat) : Int) = i := by omega
    have hlt : (↑(i - j.toNat) : Int) < k := by omega
    have hw := congrArg (·[i - j.toNat]?) (h j hj (by omega))
    simp only [getElem?_textOf (ha.placed.shift hj) hlt, getElem?_textOf (hb.placed.shift hj) hlt,
      Location.shift_shift, hoff] at hw
    rw [getElem?_textOf ha.placed hi, getElem?_textOf hb.placed hi, hw]
  · rw [List.getElem?_eq_none (by omega), List.getElem?_eq_none (by omega)]

/-- A block of lines: the locations at which it stands and its number of lines. -/
structure Block where
  start : LocationSet
  size : Int
  deriving DecidableEq, Repr

/-- The block stands at its locations, of which there is one at least, wholly inside their files and
with the same text. -/
structure Block.Repeats (files : List CodeFile) (b : Block) : Prop where
  ne_nil : b.start ≠ []
  pos : 1 ≤ b.size
  fits : ∀ a ∈ b.start, Fits files b.size a
  same : ∀ a ∈ b.start, ∀ c ∈ b.start, textOf files b.size a = textOf files b.size c

theorem Block.Repeats.window {b : Block} (h : b.Repeats files) (hk : 1 ≤ k) (hj : 0 ≤ j)
    (hjk : j + k ≤ b.size) : Block.Repeats files ⟨LocationSet.shift j b.start, k⟩ where
  ne_nil := by simpa [LocationSet.shift] using h.ne_nil
  pos := hk
  fits := by
    intro _ hmem
    obtain ⟨a, ha, rfl⟩ := List.mem_map.mp hmem
    exact (h.fits a ha).shift hj hjk
  same := by
    intro _ hmem _ hmem'
    obtain ⟨a, ha, rfl⟩ := List.mem_map.mp hmem
    obtain ⟨c, hc, rfl⟩ := List.mem_map.mp hmem'
    change textOf files k _ = textOf files k _
    rw [textOf_shift (h.fits a ha).placed hj (by omega) hjk,
      textOf_shift (h.fits c hc).placed hj (by omega) hjk, h.same a ha c hc]

/-- The occurrence of a block at a location, with nothing in it where the block is not there. -/
def occurrenceOf (files : List CodeFile) (size : Int) (a : Location) : Occurrence :=
  (occurrenceAt files size a).toOption.getD ⟨"", 0, 0⟩

theorem Fits.occurrenceAt_eq (h : Fits files size a) (hs : 1 ≤ size) :
    ∃ file first last, files[a.file.toNat]? = some file ∧
      (linesAt files size a).head? = some first ∧ (linesAt files size a).getLast? = some last ∧
      occurrenceAt files size a = .ok ⟨file.path.text, first.number, last.number⟩ := by
  have hlen := h.length_linesAt (by omega)
  have hne : linesAt files size a ≠ [] := by
    intro hnil
    rw [hnil] at hlen
    simp only [List.length_nil] at hlen
    omega
  obtain ⟨hp, file, hf, -⟩ := h
  have hl : linesAt files size a = file.block a.offset size := by rw [linesAt, fileAt_eq_ok hp hf]
  refine ⟨file, _, _, hf, List.head?_eq_some_head hne, List.getLast?_eq_some_getLast hne, ?_⟩
  simp only [hl] at hne ⊢
  simp [occurrenceAt, fileAt_eq_ok hp hf, List.head?_eq_some_head hne,
    List.getLast?_eq_some_getLast hne]

theorem Fits.occurrenceAt_eq_ok (h : Fits files size a) (hs : 1 ≤ size) :
    occurrenceAt files size a = .ok (occurrenceOf files size a) := by
  obtain ⟨file, first, last, -, -, -, ho⟩ := h.occurrenceAt_eq hs
  simp [occurrenceOf, ho, Except.toOption]

/-- The group that a block is reported as. -/
def Block.group (files : List CodeFile) (b : Block) : Group where
  occurrences := b.start.map (occurrenceOf files b.size)
  lineCount := b.size
  sample := (b.start.head?.map (textOf files (min b.size Group.sampleSize))).getD []
  severity := .ofCount b.start.length

theorem Block.Repeats.groupAt_eq {b : Block} (h : b.Repeats files) :
    groupAt files b.size b.start = .ok (b.group files) := by
  have ho : b.start.mapM (occurrenceAt files b.size) =
      .ok (b.start.map (occurrenceOf files b.size)) :=
    mapM_eq_ok fun a ha => (h.fits a ha).occurrenceAt_eq_ok h.pos
  obtain ⟨first, others, hs⟩ := List.exists_cons_of_ne_nil h.ne_nil
  have hfirst := h.fits first (by simp [hs])
  rw [groupAt, ho]
  simp only [hs, ok_bind, hfirst.textsAt]
  simp [Block.group, hs]

/-- Among lines whose numbers increase, those numbered from the first to the last line of a stretch
are that stretch. -/
theorem filter_between {xs ys zs : List CodeLine} {first last : CodeLine}
    (h : (xs ++ ys ++ zs).Pairwise (·.number < ·.number)) (hf : ys.head? = some first)
    (hl : ys.getLast? = some last) :
    (xs ++ ys ++ zs).filter (fun l => first.number ≤ l.number ∧ l.number ≤ last.number) = ys := by
  have hfirst : first ∈ ys := List.mem_of_mem_head? hf
  have hlast : last ∈ ys := List.mem_of_getLast? hl
  obtain ⟨hxy, -, hyz⟩ := List.pairwise_append.mp h
  obtain ⟨-, hys, hx⟩ := List.pairwise_append.mp hxy
  have hxs : xs.filter (fun l => first.number ≤ l.number ∧ l.number ≤ last.number) = [] := by
    refine List.filter_eq_nil_iff.mpr fun l hlx => ?_
    have := hx l hlx first hfirst
    simp only [decide_eq_true_eq]
    omega
  have hzs : zs.filter (fun l => first.number ≤ l.number ∧ l.number ≤ last.number) = [] := by
    refine List.filter_eq_nil_iff.mpr fun l hlz => ?_
    have := hyz last (by simp [hlast]) l hlz
    simp only [decide_eq_true_eq]
    omega
  have hmid : ys.filter (fun l => first.number ≤ l.number ∧ l.number ≤ last.number) = ys := by
    refine List.filter_eq_self.mpr fun l hly => ?_
    simp only [decide_eq_true_eq]
    constructor
    · obtain ⟨ys', rfl⟩ := List.head?_eq_some_iff.mp hf
      rcases List.mem_cons.mp hly with rfl | hl'
      · exact Int.le_refl _
      · exact Int.le_of_lt ((List.pairwise_cons.mp hys).1 l hl')
    · obtain ⟨ys', rfl⟩ := List.getLast?_eq_some_iff.mp hl
      rcases List.mem_append.mp hly with hl' | hl'
      · exact Int.le_of_lt ((List.pairwise_append.mp hys).2.2 l hl' last (by simp))
      · exact Int.le_of_eq (congrArg _ (List.mem_singleton.mp hl'))
  rw [List.filter_append, List.filter_append, hxs, hmid, hzs]
  simp

end SourceCensus.Duplication
