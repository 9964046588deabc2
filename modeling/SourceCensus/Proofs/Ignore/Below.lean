import SourceCensus.Proofs.Ignore.Matching
import SourceCensus.Proofs.Outcome

/-! # Patterns below a directory -/

namespace SourceCensus.Ignore

/-- A component in which no character means more than itself in a pattern. -/
structure IsPlain (name : List Char) : Prop where
  filled : name ≠ []
  literal : ∀ c ∈ name, c ∉ ['/', '*', '?', '[', '\\']

structure IsPlainPath (names : List (List Char)) : Prop where
  filled : names ≠ []
  plain : ∀ name ∈ names, IsPlain name

/-- Two outcomes agree when they are the same failure or related results. -/
inductive Agree {ε α : Type} (r : α → α → Prop) : Except ε α → Except ε α → Prop
  | error (e : ε) : Agree r (.error e) (.error e)
  | ok {a b : α} (h : r a b) : Agree r (.ok a) (.ok b)

theorem Agree.map {ε α β : Type} {r : β → β → Prop} {f g : α → β} (h : ∀ a, r (f a) (g a)) :
    (outcome : Except ε α) → Agree r (f <$> outcome) (g <$> outcome)
  | .error e => .error e
  | .ok a => .ok (h a)

/-- The item that stands for a character of a directory's path. -/
def Draft.literal (c : Char) : Draft :=
  if c = '/' then .inl .slash else .inr (.exact c)

def partsOf (isDirectory : Bool) (list : List Segment) : Except PatternFlaw (List Part) := do
  readDraft (← draft isDirectory list)

def partsAfter (isDirectory : Bool) (list : List Segment) : Except PatternFlaw (List Part) := do
  readDraft (← draftRest isDirectory list)

section Drafts

variable {names : List (List Char)} {name text : List Char} {list rest : List Segment}
  {isDirectory : Bool}

theorem tokens_of_literal (h : ∀ c ∈ name, c ∉ ['/', '*', '?', '[', '\\']) :
    tokens name = .ok (name.map .exact) := by
  induction name with
  | nil => unfold tokens; rfl
  | cons c name ih =>
    have hc := h c (by simp)
    simp only [List.mem_cons, List.not_mem_nil, or_false, not_or] at hc
    unfold tokens
    split <;> simp_all

theorem draftGlob_of_plain (h : IsPlain name) : draftGlob name = .ok (name.map Draft.literal) := by
  have hstar : name ≠ ['*'] := by
    rintro rfl
    exact h.literal '*' (by simp) (by simp)
  have hliteral : name.map Draft.literal = (name.map Token.exact).map Sum.inr := by
    rw [List.map_map]
    refine List.map_congr_left fun c hc => ?_
    have hslash : c ≠ '/' := fun heq => h.literal c hc (by simp [heq])
    simp [Draft.literal, hslash]
  simp only [draftGlob, if_neg hstar, tokens_of_literal h.literal, hliteral]

theorem readDraft_inl (part : Part) (items : List Draft) :
    readDraft (.inl part :: items) = (part :: ·) <$> readDraft items := by
  rw [readDraft, List.mapM_cons]
  rfl

theorem readDraft_literal (base : List Char) (items : List Draft) :
    readDraft (base.map Draft.literal ++ items) =
      (base.map Part.literal ++ ·) <$> readDraft items := by
  induction base with
  | nil => simp
  | cons c base ih =>
    have hone : readDraft (Draft.literal c :: (base.map Draft.literal ++ items)) =
        (Part.literal c :: ·) <$> readDraft (base.map Draft.literal ++ items) := by
      by_cases hc : c = '/'
      · simp only [Draft.literal, Part.literal, if_pos hc, readDraft_inl]
      · simp only [Draft.literal, Part.literal, if_neg hc]
        rw [readDraft, List.mapM_cons]
        rfl
    rw [List.map_cons, List.cons_append, hone, ih, Functor.map_map]
    rfl

theorem draftRest_glob : draftRest isDirectory (.glob text :: rest) =
    (.inl .slash :: ·) <$> draft isDirectory (.glob text :: rest) := by
  cases rest with
  | nil =>
    simp only [draftRest, draft]
    cases draftGlob text <;> rfl
  | cons segment rest =>
    simp only [draftRest, draft]
    cases draftGlob text with
    | error => rfl
    | ok first => cases draftRest isDirectory (segment :: rest) <;> rfl

theorem draft_names (hne : names ≠ []) (hnames : ∀ name ∈ names, IsPlain name) (hlist : list ≠ []) :
    draft isDirectory (names.map .glob ++ list) =
      ((Text.join ['/'] names).map Draft.literal ++ ·) <$> draftRest isDirectory list := by
  induction names with
  | nil => exact absurd rfl hne
  | cons name names ih =>
    have hname := draftGlob_of_plain (hnames name (by simp))
    cases names with
    | nil =>
      cases list with
      | nil => exact absurd rfl hlist
      | cons segment list =>
        simp [draft, hname]
        rfl
    | cons second names =>
      have htail := ih (by simp) fun n hn => hnames n (by simp [hn])
      simp only [List.map_cons, List.cons_append] at htail ⊢
      rw [draft, hname, Text.join_cons_cons]
      simp only [List.isEmpty_cons, draftRest_glob, htail]
      simp [Draft.literal]
      rfl

theorem partsOf_names (hnames : IsPlainPath names)
    (hlist : list ≠ []) :
    partsOf isDirectory (names.map .glob ++ list) =
      ((Text.join ['/'] names).map Part.literal ++ ·) <$> partsAfter isDirectory list := by
  rw [partsOf, draft_names hnames.filled hnames.plain hlist, partsAfter]
  simp [readDraft_literal]

theorem partsOf_directories : partsOf isDirectory (.directories :: .glob text :: rest) =
    (.leading :: ·) <$> partsOf isDirectory (.glob text :: rest) := by
  have hdraft : draft isDirectory (.directories :: .glob text :: rest) =
      (.inl .leading :: ·) <$> draft isDirectory (.glob text :: rest) := by
    cases rest <;> simp [draft]
  rw [partsOf, hdraft, partsOf]
  simp [readDraft_inl]

theorem partsAfter_glob : partsAfter isDirectory (.glob text :: rest) =
    (.slash :: ·) <$> partsOf isDirectory (.glob text :: rest) := by
  rw [partsAfter, draftRest_glob, partsOf]
  simp [readDraft_inl]

theorem partsAfter_directories (hlist : list ≠ []) :
    partsAfter isDirectory (.directories :: list) =
      (.between :: ·) <$> partsAfter isDirectory list := by
  cases list with
  | nil => exact absurd rfl hlist
  | cons segment list =>
    simp [partsAfter, draftRest, readDraft_inl]

theorem ofText_of_glob (h : segments text = (.glob name :: rest, isDirectory)) :
    Pattern.ofText text = .sequence <$> partsOf isDirectory (.glob name :: rest) := by
  simp [Pattern.ofText, h, partsOf, -pure_eq_ok]

/-- A pattern whose segments start with the components of a directory. -/
theorem ofText_names (hnames : IsPlainPath names) (hlist : list ≠ [])
    (h : segments text = (names.map .glob ++ list, isDirectory)) :
    Pattern.ofText text = (fun parts => .sequence
      ((Text.join ['/'] names).map Part.literal ++ parts)) <$> partsAfter isDirectory list := by
  have hparts : Pattern.ofText text =
      .sequence <$> partsOf isDirectory (names.map .glob ++ list) := by
    cases names with
    | nil => exact absurd rfl hnames.filled
    | cons name names => exact ofText_of_glob h
  rw [hparts, partsOf_names hnames hlist, Functor.map_map]

/-- A pattern whose segments are those of another one behind the components of a directory. -/
theorem ofText_agree (hnames : IsPlainPath names)
    {moved : List Char} (hsegments : segments text = (list, isDirectory))
    (hmoved : segments moved = (names.map .glob ++ list, isDirectory))
    (hfirst : ∃ text rest, list = .glob text :: rest ∨ list = .directories :: .glob text :: rest) :
    Agree (Pattern.IsBelow (Text.join ['/'] names)) (Pattern.ofText text) (Pattern.ofText moved) := by
  have hlist : list ≠ [] := by
    rintro rfl
    simp at hfirst
  rw [ofText_names hnames hlist hmoved]
  obtain ⟨glob, rest, rfl | rfl⟩ := hfirst
  · rw [ofText_of_glob hsegments, partsAfter_glob, Functor.map_map]
    exact Agree.map (fun parts => Pattern.isBelow_rooted _ parts) _
  · rw [partsAfter_directories (by simp), partsAfter_glob, Functor.map_map, Functor.map_map]
    by_cases hany : glob = ['*'] ∧ (rest = [] ∨ rest = [.directories])
    · obtain ⟨rfl, rfl | rfl⟩ := hany
      · simp only [Pattern.ofText, hsegments]
        exact .ok (Pattern.isBelow_anything _)
      · simp only [Pattern.ofText, hsegments]
        exact .ok (Pattern.isBelow_nested _ isDirectory)
    · have htext : Pattern.ofText text =
          .sequence <$> partsOf isDirectory (.directories :: .glob glob :: rest) := by
        simp only [Pattern.ofText, hsegments]
        split <;> simp_all [partsOf, -pure_eq_ok]
      rw [htext, partsOf_directories, Functor.map_map]
      exact Agree.map (fun parts => Pattern.isBelow_anywhere _ parts) _

theorem exists_append_of_partsOf {parts : List Part} (hrest : rest ≠ [])
    (h : partsOf isDirectory (.glob name :: rest) = .ok parts) :
    ∃ before after, parts = before ++ after ∧ partsAfter isDirectory rest = .ok after := by
  have hempty : rest.isEmpty = false := by simpa using hrest
  obtain ⟨items, hdraft, hread⟩ := bind_eq_ok_iff.mp h
  simp only [draft, hempty] at hdraft
  obtain ⟨first, -, hdraft⟩ := bind_eq_ok_iff.mp hdraft
  obtain ⟨tail, htail, hitems⟩ := bind_eq_ok_iff.mp hdraft
  cases hitems
  rw [readDraft, List.mapM_append] at hread
  obtain ⟨before, -, hread⟩ := bind_eq_ok_iff.mp hread
  obtain ⟨after, hafter, hparts⟩ := bind_eq_ok_iff.mp hread
  cases hparts
  refine ⟨before, after, rfl, ?_⟩
  rw [partsAfter, show draftRest isDirectory rest = .ok tail from htail]
  exact hafter

/-- An empty component stands for the slash before it. -/
theorem partsAfter_empty (hrest : rest ≠ []) : partsAfter isDirectory (.glob [] :: rest) =
    (.slash :: ·) <$> partsAfter isDirectory rest := by
  cases rest with
  | nil => exact absurd rfl hrest
  | cons segment rest =>
    have hglob : draftGlob [] = .ok [] := by
      simp [draftGlob, tokens]
    simp [partsAfter, draftRest, hglob, readDraft_inl]

theorem exists_slashes_of_partsAfter {parts : List Part}
    (hrest : rest = [.directories] ∨ ∃ more, rest = .glob [] :: more)
    (h : partsAfter isDirectory (.glob [] :: rest) = .ok parts) :
    ∃ part more, parts = .slash :: part :: more ∧ part.IsSlash := by
  rcases hrest with rfl | ⟨more, rfl⟩
  · rw [partsAfter_empty (by simp)] at h
    cases h
    cases isDirectory with
    | false => exact ⟨.slash, [], rfl, .inl rfl⟩
    | true => exact ⟨.mark, [], rfl, .inr rfl⟩
  · rw [partsAfter_empty (by simp), partsAfter_glob, Functor.map_map] at h
    cases hmore : partsOf isDirectory (.glob [] :: more) with
    | error => simp [hmore, Functor.map, Except.map] at h
    | ok parts =>
      rw [hmore] at h
      cases h
      exact ⟨.slash, parts, rfl, .inl rfl⟩

/-- With two slashes behind a name, any directories may come before it: it matches nothing. -/
theorem ofText_agree_doubled (hnames : IsPlainPath names)
    {moved : List Char} (hsegments : segments text = (.glob name :: .glob [] :: rest, isDirectory))
    (hrest : rest = [.directories] ∨ ∃ more, rest = .glob [] :: more)
    (hmoved : segments moved =
      (names.map .glob ++ .directories :: .glob name :: .glob [] :: rest, isDirectory)) :
    Agree (Pattern.IsBelow (Text.join ['/'] names)) (Pattern.ofText text) (Pattern.ofText moved) := by
  rw [ofText_names hnames (by simp) hmoved, ofText_of_glob hsegments,
    partsAfter_directories (by simp), partsAfter_glob, Functor.map_map, Functor.map_map]
  cases hparts : partsOf isDirectory (.glob name :: .glob [] :: rest) with
  | error flaw => exact .error flaw
  | ok parts =>
    obtain ⟨before, after, rfl, hafter⟩ := exists_append_of_partsOf (by simp) hparts
    obtain ⟨part, more, rfl, hpart⟩ := exists_slashes_of_partsAfter hrest hafter
    exact .ok (Pattern.isBelow_doubled _ before more hpart)

end Drafts

end SourceCensus.Ignore
