import Mathlib.Data.List.Basic
import SourceCensus.Ignore.Pattern
import SourceCensus.Proofs.Pieces

/-! # Matching below a directory -/

namespace SourceCensus.Ignore

/-- The path of an entry below the root: components that hold no slash and more than line feeds, with
a slash behind them when the entry is a directory. -/
def IsEntryPath (path : List Char) : Prop :=
  ∃ (names : List (List Char)) (isDirectory : Bool), names ≠ [] ∧
    (∀ name ∈ names, '/' ∉ name ∧ ∃ c ∈ name, c ≠ '\n') ∧
    path = Text.join ['/'] names ++ if isDirectory then ['/'] else []

def Part.literal (c : Char) : Part :=
  if c = '/' then .slash else .exact c

def Part.IsSlash (part : Part) : Prop :=
  part = .slash ∨ part = .mark

def Pattern.IsBelow (base : List Char) (pattern moved : Pattern) : Prop :=
  ∀ path, IsEntryPath path → ((moved.matchPath path).isSome ↔
    ∃ rest, path = base ++ '/' :: rest ∧ (pattern.matchPath rest).isSome)

section Attempts

variable {most least : Nat} {f : Nat → Option Bool} {part : Part} {parts : List Part}
  {next : List Char → Option Bool} {s : List Char}

theorem isSome_longestFirst :
    (longestFirst most least f).isSome ↔ ∃ n, least ≤ n ∧ n ≤ most ∧ (f n).isSome := by
  simp only [longestFirst, List.findSome?_isSome_iff, List.mem_map, List.mem_range]
  constructor
  · rintro ⟨_, ⟨i, hi, rfl⟩, hf⟩
    exact ⟨most - i, by omega, by omega, hf⟩
  · rintro ⟨n, hleast, hmost, hf⟩
    exact ⟨n, ⟨most - n, by omega, by omega⟩, hf⟩

/-- A part leaves an end of the text to what comes after it. -/
theorem Part.exists_suffix_of_attempt (h : (part.attempt next s).isSome) :
    ∃ rest, rest <:+ s ∧ (next rest).isSome := by
  cases part with
  | exact _ | one | oneOf _ =>
    cases s with
    | nil => simp [attempt] at h
    | cons d rest => exact ⟨rest, List.suffix_cons d rest, by grind [attempt]⟩
  | many least =>
    obtain ⟨n, -, -, hnext⟩ := isSome_longestFirst.mp h
    exact ⟨s.drop n, List.drop_suffix n s, hnext⟩
  | leading =>
    simp only [attempt, Option.isSome_or, Bool.or_eq_true] at h
    rcases h with h | h
    · obtain ⟨n, -, -, hnext⟩ := isSome_longestFirst.mp h
      split at hnext
      · rename_i rest heq
        exact ⟨rest, (List.suffix_cons _ rest).trans (heq ▸ List.drop_suffix n s), hnext⟩
      · cases hnext
    · exact ⟨s, List.suffix_rfl, h⟩
  | between =>
    simp only [attempt] at h
    split at h
    · rename_i rest
      simp only [Option.isSome_or, Bool.or_eq_true] at h
      rcases h with h | h
      · obtain ⟨n, -, -, hnext⟩ := isSome_longestFirst.mp h
        exact ⟨rest.drop n, (List.drop_suffix n rest).trans (List.suffix_cons _ rest), hnext⟩
      · exact ⟨_, List.suffix_rfl, h⟩
    · exact ⟨s, List.suffix_rfl, h⟩
  | slash =>
    simp only [attempt] at h
    split at h
    · rename_i rest
      exact ⟨rest, List.suffix_cons _ rest, h⟩
    · cases h
  | mark =>
    simp only [attempt] at h
    split at h
    · rename_i rest
      exact ⟨rest, List.suffix_cons _ rest, by simpa using h⟩
    · cases h
  | finish =>
    simp only [attempt] at h
    split at h
    · rename_i rest
      exact ⟨rest, List.suffix_cons _ rest, by simpa using h⟩
    · exact ⟨_, List.suffix_rfl, h⟩
    · exact ⟨_, List.suffix_rfl, h⟩
    · cases h

theorem exists_suffix_of_attemptAll (before : List Part)
    (h : (attemptAll (before ++ parts) s).isSome) :
    ∃ rest, rest <:+ s ∧ (attemptAll parts rest).isSome := by
  induction before generalizing s with
  | nil => exact ⟨s, List.suffix_rfl, h⟩
  | cons part before ih =>
    obtain ⟨rest, hrest, hnext⟩ := part.exists_suffix_of_attempt h
    obtain ⟨last, hlast, hparts⟩ := ih hnext
    exact ⟨last, hlast.trans hrest, hparts⟩

theorem Part.IsSlash.isSome_attempt (h : part.IsSlash) :
    (part.attempt next s).isSome ↔ ∃ rest, s = '/' :: rest ∧ (next rest).isSome := by
  rcases h with rfl | rfl
  · simp only [attempt]
    split <;> simp_all
  · simp only [attempt]
    split <;> simp_all

theorem Part.isSome_attempt_slash :
    (Part.slash.attempt next s).isSome ↔ ∃ rest, s = '/' :: rest ∧ (next rest).isSome :=
  IsSlash.isSome_attempt (.inl rfl)

theorem Part.isSome_attempt_literal (c : Char) :
    ((Part.literal c).attempt next s).isSome ↔ ∃ rest, s = c :: rest ∧ (next rest).isSome := by
  by_cases hc : c = '/'
  · simp only [literal, hc, if_true, isSome_attempt_slash]
  · simp only [literal, hc, if_false, attempt]
    cases s with
    | nil => simp
    | cons d rest => by_cases hd : d = c <;> simp [hd]

/-- Literal parts match the text that they are made of. -/
theorem isSome_attemptAll_literal (base : List Char) :
    (attemptAll (base.map Part.literal ++ parts) s).isSome ↔
      ∃ rest, s = base ++ rest ∧ (attemptAll parts rest).isSome := by
  induction base generalizing s with
  | nil => simp
  | cons c base ih =>
    simp only [List.map_cons, List.cons_append, attemptAll, Part.isSome_attempt_literal]
    constructor
    · rintro ⟨rest, rfl, h⟩
      obtain ⟨last, rfl, hlast⟩ := ih.mp h
      exact ⟨last, rfl, hlast⟩
    · rintro ⟨last, rfl, hlast⟩
      exact ⟨base ++ last, rfl, ih.mpr ⟨last, rfl, hlast⟩⟩

/-- Behind a slash, to skip anything up to a slash is to start in any directory. -/
theorem isSome_attemptAll_between :
    (attemptAll (.between :: .slash :: parts) s).isSome ↔
      ∃ rest, s = '/' :: rest ∧ (attemptAll (.leading :: parts) rest).isSome := by
  constructor
  · intro h
    by_cases hs : ∃ rest, s = '/' :: rest
    · obtain ⟨rest, rfl⟩ := hs
      exact ⟨rest, rfl, h⟩
    · have hslash : (Part.slash.attempt (attemptAll parts) s).isSome := by
        simp only [attemptAll, Part.attempt] at h
        split at h
        · exact absurd ⟨_, rfl⟩ hs
        · exact h
      obtain ⟨rest, hrest, -⟩ := Part.isSome_attempt_slash.mp hslash
      exact absurd ⟨rest, hrest⟩ hs
  · rintro ⟨rest, rfl, h⟩
    exact h

theorem exists_below_iff {p : List Char → Prop} (base : List Char) :
    (∃ rest, s = base ++ rest ∧ ∃ more, rest = '/' :: more ∧ p more) ↔
      ∃ more, s = base ++ '/' :: more ∧ p more := by
  constructor
  · rintro ⟨_, rfl, more, rfl, h⟩
    exact ⟨more, rfl, h⟩
  · rintro ⟨more, rfl, h⟩
    exact ⟨_, rfl, more, rfl, h⟩

theorem isSome_attemptAll_below (base : List Char) :
    (attemptAll (base.map Part.literal ++ .slash :: parts) s).isSome ↔
      ∃ rest, s = base ++ '/' :: rest ∧ (attemptAll parts rest).isSome := by
  simp only [isSome_attemptAll_literal, attemptAll, Part.isSome_attempt_slash, exists_below_iff]

theorem isSome_attemptAll_anywhere_below (base : List Char) :
    (attemptAll (base.map Part.literal ++ .between :: .slash :: parts) s).isSome ↔
      ∃ rest, s = base ++ '/' :: rest ∧ (attemptAll (.leading :: parts) rest).isSome := by
  simp only [isSome_attemptAll_literal, isSome_attemptAll_between, exists_below_iff]

end Attempts

section EntryPaths

/-- A piece of an entry's path is a component, or the empty end of a directory's path. -/
theorem mem_names_or_last {before names more : List (List Char)} {piece : List Char}
    {isDirectory : Bool}
    (h : before ++ piece :: more = names ++ if isDirectory then [[]] else []) :
    piece ∈ names ∨ piece = [] ∧ more = [] := by
  cases isDirectory with
  | false =>
    left
    have hnames : before ++ piece :: more = names := by simpa using h
    simp [← hnames]
  | true =>
    rcases List.eq_nil_or_concat' more with rfl | ⟨init, last, rfl⟩
    · exact .inr ⟨by simpa using (List.append_inj' h rfl).2, rfl⟩
    · left
      have hconcat : (before ++ piece :: init) ++ [last] = names ++ [[]] := by simpa using h
      simp [← (List.append_inj' hconcat rfl).1]

theorem IsEntryPath.after_slash {front path : List Char} (h : IsEntryPath (front ++ '/' :: path)) :
    path = [] ∨ ∃ c ∈ path.takeWhile (· != '/'), c ≠ '\n' := by
  obtain ⟨names, isDirectory, hne, hnames, hpath⟩ := h
  have hpieces : Text.splitOn '/' front ++ Text.splitOn '/' path =
      names ++ if isDirectory then [[]] else [] := by
    rw [← Text.splitOn_append, hpath]
    have hjoin := Text.splitOn_join hne fun name hname => (hnames name hname).1
    cases isDirectory with
    | false => simpa using hjoin
    | true => simpa [Text.splitOn_append '/' _ []] using hjoin
  rw [Text.splitOn_eq '/' path] at hpieces
  rcases mem_names_or_last hpieces with hmem | ⟨hfirst, hmore⟩
  · exact .inr (hnames _ hmem).2
  · left
    cases hrest : path.dropWhile (· != '/') with
    | nil => rw [← List.takeWhile_append_dropWhile (p := (· != '/')) (l := path), hfirst, hrest]; rfl
    | cons c rest =>
      rw [hrest] at hmore
      exact absurd hmore (Text.splitOn_ne_nil '/' rest)

end EntryPaths

section Placed

variable {parts : List Part} {path : List Char}

/-- A star alone can take the first component. -/
theorem isSome_attemptAll_component (hfirst : path.takeWhile (· != '/') ≠ [])
    (h : (attemptAll parts (path.dropWhile (· != '/'))).isSome) :
    (attemptAll (.leading :: .many 1 :: parts) path).isSome := by
  have hdrop : path.drop (path.takeWhile (· != '/')).length = path.dropWhile (· != '/') :=
    calc path.drop (path.takeWhile (· != '/')).length
      _ = (path.takeWhile (· != '/') ++ path.dropWhile (· != '/')).drop _ := by
        rw [List.takeWhile_append_dropWhile]
      _ = path.dropWhile (· != '/') := List.drop_left
  have hmany : (attemptAll (.many 1 :: parts) path).isSome :=
    isSome_longestFirst.mpr
      ⟨_, List.length_pos_iff.mpr hfirst, Nat.le_refl _, by rwa [← hdrop] at h⟩
  simp only [attemptAll, Part.attempt, Option.isSome_or, Bool.or_eq_true]
  exact .inr hmany

theorem attemptAll_component_nil : attemptAll (.leading :: .many 1 :: parts) [] = none := by
  simp [attemptAll, Part.attempt, longestFirst, countWhile]

theorem dropWhile_eq_slash (path : List Char) :
    path.dropWhile (· != '/') = [] ∨ ∃ rest, path.dropWhile (· != '/') = '/' :: rest := by
  cases h : path.dropWhile (· != '/') with
  | nil => exact .inl rfl
  | cons c rest =>
    have hc : (path.dropWhile (· != '/')).head? = some c := by rw [h]; rfl
    have := List.head?_dropWhile_not (· != '/') path
    simp_all

theorem isSome_any_component
    (h : path = [] ∨ ∃ c ∈ path.takeWhile (· != '/'), c ≠ '\n') :
    (attemptAll [.leading, .many 1, .finish] path).isSome ↔ path.any (· != '\n') := by
  rcases h with rfl | ⟨c, hc, hfeed⟩
  · simp [attemptAll_component_nil]
  · have hany : path.any (· != '\n') :=
      List.any_eq_true.mpr ⟨c, List.takeWhile_subset _ hc, by simpa using hfeed⟩
    refine iff_of_true (isSome_attemptAll_component (List.ne_nil_of_mem hc) ?_) hany
    rcases dropWhile_eq_slash path with hrest | ⟨rest, hrest⟩ <;> simp [hrest, attemptAll, Part.attempt]

theorem isSome_any_directory (marked : Bool)
    (h : path = [] ∨ ∃ c ∈ path.takeWhile (· != '/'), c ≠ '\n') :
    (attemptAll [.leading, .many 1, if marked then .mark else .slash] path).isSome ↔
      path.contains '/' := by
  have hslash : (if marked then Part.mark else Part.slash).IsSlash := by
    cases marked
    · exact .inl rfl
    · exact .inr rfl
  constructor
  · intro hsome
    obtain ⟨_, hsuffix, hrest⟩ := exists_suffix_of_attemptAll [.leading, .many 1] hsome
    obtain ⟨rest, rfl, -⟩ := hslash.isSome_attempt.mp hrest
    simpa using hsuffix.subset (by simp : '/' ∈ '/' :: rest)
  · intro hmem
    rcases h with rfl | ⟨c, hc, -⟩
    · simp at hmem
    · refine isSome_attemptAll_component (List.ne_nil_of_mem hc) ?_
      rcases dropWhile_eq_slash path with hrest | ⟨rest, hrest⟩
      · have hfree := List.dropWhile_eq_nil_iff.mp hrest '/' (by simpa using hmem)
        simp at hfree
      · exact hslash.isSome_attempt.mpr ⟨rest, hrest, rfl⟩

theorem Pattern.isBelow_rooted (base : List Char) (parts : List Part) :
    IsBelow base (.sequence parts) (.sequence (base.map Part.literal ++ .slash :: parts)) :=
  fun _ _ => isSome_attemptAll_below base

theorem Pattern.isBelow_anywhere (base : List Char) (parts : List Part) :
    IsBelow base (.sequence (.leading :: parts))
      (.sequence (base.map Part.literal ++ .between :: .slash :: parts)) :=
  fun _ _ => isSome_attemptAll_anywhere_below base

theorem Pattern.isBelow_anything (base : List Char) :
    IsBelow base .anything
      (.sequence (base.map Part.literal ++ [.between, .slash, .many 1, .finish])) := by
  intro path hpath
  simp only [matchPath, isSome_attemptAll_anywhere_below]
  refine exists_congr fun rest => and_congr_right fun heq => ?_
  rw [isSome_any_component (heq ▸ hpath).after_slash, Option.isSome_ite]

theorem Pattern.isBelow_nested (base : List Char) (marked : Bool) :
    IsBelow base (.nested marked) (.sequence (base.map Part.literal ++
      [.between, .slash, .many 1, if marked then .mark else .slash])) := by
  intro path hpath
  simp only [matchPath, isSome_attemptAll_anywhere_below]
  refine exists_congr fun rest => and_congr_right fun heq => ?_
  rw [isSome_any_directory marked (heq ▸ hpath).after_slash, Option.isSome_ite]

/-- Parts with two slashes next to each other match no end of an entry's path. -/
theorem not_isEntryPath_of_doubled (front : List Char) (before : List Part) {part : Part}
    (hpart : part.IsSlash) (h : (attemptAll (before ++ .slash :: part :: parts) path).isSome) :
    ¬ IsEntryPath (front ++ path) := by
  intro hpath
  obtain ⟨_, ⟨skipped, rfl⟩, hslash⟩ := exists_suffix_of_attemptAll before h
  obtain ⟨rest, rfl, hrest⟩ := Part.isSome_attempt_slash.mp hslash
  obtain ⟨more, rfl, -⟩ := hpart.isSome_attempt.mp hrest
  rw [← List.append_assoc] at hpath
  simpa using hpath.after_slash

theorem Pattern.isBelow_doubled (base : List Char) (before after : List Part) {part : Part}
    (hpart : part.IsSlash) :
    IsBelow base (.sequence (before ++ .slash :: part :: after))
      (.sequence (base.map Part.literal ++
        .between :: .slash :: (before ++ .slash :: part :: after))) := by
  intro path hpath
  constructor
  · intro hsome
    have hparts : (attemptAll ((base.map Part.literal ++ .between :: .slash :: before) ++
        .slash :: part :: after) path).isSome := by
      simpa [matchPath] using hsome
    exact absurd hpath (not_isEntryPath_of_doubled [] _ hpart hparts)
  · rintro ⟨rest, rfl, hsome⟩
    have hnot := not_isEntryPath_of_doubled (base ++ ['/']) before hpart hsome
    simp [hpath] at hnot

end Placed

end SourceCensus.Ignore
