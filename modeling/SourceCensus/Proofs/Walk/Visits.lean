import SourceCensus.Proofs.Store.Tree
import SourceCensus.Walk.Traversal

/-! # The entries of a tree, level after level -/

namespace SourceCensus.Walk

/-- The order in which a walk comes to names below its root. -/
def ComesBefore (a b : List String) : Prop :=
  a.length < b.length ∨ a.length = b.length ∧ a < b

/-- A directory below the root that a walk does not avoid. -/
structure Passable (store : Store) (root : List String) (policy : Policy) (dir : List String) :
    Prop where
  notReserved : dir.getLast? ≠ some reservedDirectory
  notLink : store.isLink (root ++ dir) = false
  notIgnored : policy.ignored (relativeText dir) true = false
  notExcluded : policy.exclusion.excludesDirectory (dir.getLast?.getD "") = false
  notTests : policy.excludeTests = true → dir.getLast?.getD "" ∉ testDirectories

/-- A file below the root that a walk keeps if its language is known: it may be reached through a
link, but no directory on the way to it may be avoided. -/
structure Admitted (store : Store) (root : List String) (policy : Policy) (names : List String) :
    Prop where
  leadsDown : ∀ name ∈ names, LeadsDown name
  isFile : store.isFile (root ++ names) = true
  way : ∀ dir, dir <+: names → dir ≠ [] → dir ≠ names → Passable store root policy dir
  notIgnored : policy.ignored (relativeText names) false = false
  notExcluded : policy.exclusion.excludesFile (relativeText names) = false
  notTest : policy.excludeTests = true → isTestName (names.getLast?.getD "") = false

/-- An entry below the root with no directory on the way to it that a walk avoids. -/
structure Met (store : Store) (root : List String) (policy : Policy) (names : List String) :
    Prop where
  below : names ≠ []
  isEntry : store.entry? (root ++ names) ≠ none
  way : ∀ dir, dir <+: names → dir ≠ [] → dir ≠ names → Passable store root policy dir

def heldNames (store : Store) (root : List String) (directories : List (List String)) :
    List (List String) :=
  directories.flatMap fun dir => (store.children (root ++ dir)).map fun name => dir ++ [name]

def enteredNames (store : Store) (root : List String) (policy : Policy)
    (directories : List (List String)) : List (List String) :=
  (heldNames store root directories).filter fun names =>
    fate store root policy names = .ok .entered

/-- The names below the given directories, over so many levels, where each entry that is entered has
its own entries in the next level. -/
def visits (store : Store) (root : List String) (policy : Policy) :
    Nat → List (List String) → List (List String)
  | 0, _ => []
  | levels + 1, directories =>
    heldNames store root directories ++
      visits store root policy levels (enteredNames store root policy directories)

/-- All names below the root that a walk comes to. -/
def visited (store : Store) (root : List String) (policy : Policy) : List (List String) :=
  visits store root policy (store.depth + 1) [[]]

section Fates

variable {store : Store} {root names : List String} {policy : Policy} {language : Language}
  {fault : AccessFault}

theorem passable_iff : Passable store root policy names ↔
    names.getLast? ≠ some reservedDirectory ∧ store.isLink (root ++ names) = false ∧
      policy.leavesDirectory names = false := by
  constructor
  · rintro ⟨hreserved, hlink, hignored, hexcluded, htests⟩
    refine ⟨hreserved, hlink, ?_⟩
    cases hon : policy.excludeTests with
    | false => simp [Policy.leavesDirectory, hignored, hexcluded, hon]
    | true => simpa [Policy.leavesDirectory, hignored, hexcluded, hon] using htests hon
  · rintro ⟨hreserved, hlink, hleaves⟩
    simp only [Policy.leavesDirectory, Bool.or_eq_false_iff, Bool.and_eq_false_iff] at hleaves
    obtain ⟨⟨hignored, hexcluded⟩, htests⟩ := hleaves
    refine ⟨hreserved, hlink, hignored, hexcluded, fun hon => ?_⟩
    simpa [hon] using htests

theorem fate_eq_error : fate store root policy names = .error fault ↔
    store.fullStatus (root ++ names) = .error .nameTooLong ∧
      fault = ⟨.nameTooLong, store.pathText (root ++ names)⟩ := by
  cases hstatus : store.fullStatus (root ++ names) with
  | error cause => cases cause <;> simp [fate, hstatus, eq_comm]
  | ok entry =>
    cases entry with
    | file content =>
      simp only [fate, hstatus]
      split_ifs
      · simp
      · cases languageOf? store (root ++ names) <;> simp
    | directory =>
      simp only [fate, hstatus]
      split_ifs <;> simp
    | link target => simp [fate, hstatus]

theorem fate_eq_entered : fate store root policy names = .ok .entered ↔
    store.fullStatus (root ++ names) = .ok .directory ∧ Passable store root policy names := by
  rw [passable_iff]
  cases hstatus : store.fullStatus (root ++ names) with
  | error cause => cases cause <;> simp [fate, hstatus]
  | ok entry =>
    cases entry with
    | file content =>
      simp only [fate, hstatus]
      split_ifs
      · simp
      · cases languageOf? store (root ++ names) <;> simp
    | directory =>
      simp only [fate, hstatus, true_and]
      by_cases hname : names.getLast? = some reservedDirectory <;>
        cases store.isLink (root ++ names) <;> cases policy.leavesDirectory names <;> simp [hname]
    | link target => simp [fate, hstatus]

theorem fate_eq_kept : fate store root policy names = .ok (.kept language) ↔
    (∃ content, store.fullStatus (root ++ names) = .ok (.file content)) ∧
      policy.leavesFile names = false ∧ languageOf? store (root ++ names) = some language := by
  cases hstatus : store.fullStatus (root ++ names) with
  | error cause => cases cause <;> simp [fate, hstatus]
  | ok entry =>
    cases entry with
    | file content =>
      simp only [fate, hstatus]
      cases policy.leavesFile names with
      | true => simp
      | false => cases languageOf? store (root ++ names) <;> simp
    | directory =>
      simp only [fate, hstatus]
      split_ifs <;> simp
    | link target => simp [fate, hstatus]

theorem leavesFile_eq_false : policy.leavesFile names = false ↔
    policy.ignored (relativeText names) false = false ∧
      policy.exclusion.excludesFile (relativeText names) = false ∧
        (policy.excludeTests = true → isTestName (names.getLast?.getD "") = false) := by
  simp only [Policy.leavesFile, Bool.or_eq_false_iff, Bool.and_eq_false_iff, and_assoc]
  cases policy.excludeTests <;> simp

end Fates

section Order

variable {store : Store} {root : List String} {policy : Policy} {directories : List (List String)}

theorem append_singleton_lt {a b : List String} (hlength : a.length = b.length) (h : a < b)
    (x y : String) : a ++ [x] < b ++ [y] := by
  induction a generalizing b with
  | nil =>
    obtain rfl := List.eq_nil_of_length_eq_zero hlength.symm
    exact absurd h (lt_irrefl _)
  | cons c a ih =>
    cases b with
    | nil => simp at hlength
    | cons d b =>
      rw [List.cons_append, List.cons_append, List.cons_lt_cons_iff]
      rcases List.cons_lt_cons_iff.mp h with hlt | ⟨heq, hlt⟩
      · exact .inl hlt
      · exact .inr ⟨heq, ih (by simpa using hlength) hlt⟩

theorem mem_heldNames {names : List String} : names ∈ heldNames store root directories ↔
    ∃ dir ∈ directories, ∃ name ∈ store.children (root ++ dir), dir ++ [name] = names := by
  simp only [heldNames, List.mem_flatMap, List.mem_map]

theorem mem_enteredNames {names : List String} :
    names ∈ enteredNames store root policy directories ↔
      names ∈ heldNames store root directories ∧ fate store root policy names = .ok .entered := by
  simp [enteredNames]

/-- The entries of directories in order are in order. -/
theorem pairwise_heldNames {level : Nat} (hlength : ∀ dir ∈ directories, dir.length = level)
    (hsorted : directories.Pairwise (· < ·)) :
    (heldNames store root directories).Pairwise (· < ·) := by
  refine List.pairwise_flatMap.mpr ⟨fun dir _ => ?_, hsorted.imp_of_mem ?_⟩
  · rw [List.pairwise_map]
    exact (store.pairwise_children (root ++ dir)).imp fun hlt =>
      List.append_left_lt (List.cons_lt_cons_iff.mpr (.inl hlt))
  · intro a b ha hb hlt x hx y hy
    obtain ⟨name, -, rfl⟩ := List.mem_map.mp hx
    obtain ⟨name', -, rfl⟩ := List.mem_map.mp hy
    exact append_singleton_lt ((hlength a ha).trans (hlength b hb).symm) hlt name name'

theorem length_of_mem_heldNames {level : Nat} (hlength : ∀ dir ∈ directories, dir.length = level)
    {names : List String} (h : names ∈ heldNames store root directories) :
    names.length = level + 1 := by
  obtain ⟨dir, hdir, name, -, rfl⟩ := mem_heldNames.mp h
  simp [hlength dir hdir]

theorem length_of_mem_enteredNames {level : Nat} (hlength : ∀ dir ∈ directories, dir.length = level) :
    ∀ dir ∈ enteredNames store root policy directories, dir.length = level + 1 :=
  fun _ hdir => length_of_mem_heldNames hlength (mem_enteredNames.mp hdir).1

theorem level_lt_of_mem_visits {level : Nat} (hlength : ∀ dir ∈ directories, dir.length = level)
    {levels : Nat} {names : List String} (h : names ∈ visits store root policy levels directories) :
    level < names.length := by
  induction levels generalizing directories level with
  | zero => simp [visits] at h
  | succ levels ih =>
    rcases List.mem_append.mp h with h | h
    · have := length_of_mem_heldNames hlength h
      omega
    · have := ih (length_of_mem_enteredNames hlength) h
      omega

/-- A walk comes to names in order: those of a level are in order, and those below have more
components. -/
theorem pairwise_visits {level : Nat} (hlength : ∀ dir ∈ directories, dir.length = level)
    (hsorted : directories.Pairwise (· < ·)) (levels : Nat) :
    (visits store root policy levels directories).Pairwise ComesBefore := by
  induction levels generalizing directories level with
  | zero => exact .nil
  | succ levels ih =>
    have hheld : (heldNames store root directories).Pairwise (· < ·) :=
      pairwise_heldNames hlength hsorted
    refine List.pairwise_append.mpr ⟨hheld.imp_of_mem ?_,
      ih (length_of_mem_enteredNames hlength) (hheld.filter _), ?_⟩
    · intro a b ha hb hlt
      have hla := length_of_mem_heldNames hlength ha
      have hlb := length_of_mem_heldNames hlength hb
      exact .inr ⟨hla.trans hlb.symm, hlt⟩
    · intro a ha b hb
      have hla := length_of_mem_heldNames hlength ha
      have hlb := level_lt_of_mem_visits (length_of_mem_enteredNames hlength) hb
      exact .inl (hla ▸ hlb)

end Order

section Coverage

variable {store : Store} {root names : List String} {policy : Policy}
  {directories : List (List String)}

/-- A directory below the root to which every step is taken. -/
def Walked (store : Store) (root : List String) (policy : Policy) (dir : List String) : Prop :=
  ∀ front, front <+: dir → front ≠ [] → fate store root policy front = .ok .entered

theorem Walked.concat {dir : List String} {name : String} (h : Walked store root policy dir)
    (hfate : fate store root policy (dir ++ [name]) = .ok .entered) :
    Walked store root policy (dir ++ [name]) := by
  intro front hfront hne
  rcases List.prefix_concat_iff.mp hfront with rfl | hfront
  · exact hfate
  · exact h front hfront hne

/-- A walk comes only to entries of directories that it has walked to. -/
theorem exists_of_mem_visits (hwalked : ∀ dir ∈ directories, Walked store root policy dir)
    {levels : Nat} (h : names ∈ visits store root policy levels directories) :
    ∃ dir, Walked store root policy dir ∧ ∃ name ∈ store.children (root ++ dir),
      dir ++ [name] = names := by
  induction levels generalizing directories with
  | zero => simp [visits] at h
  | succ levels ih =>
    rcases List.mem_append.mp h with h | h
    · obtain ⟨dir, hdir, hname⟩ := mem_heldNames.mp h
      exact ⟨dir, hwalked dir hdir, hname⟩
    · refine ih (fun dir hdir => ?_) h
      obtain ⟨hheld, hfate⟩ := mem_enteredNames.mp hdir
      obtain ⟨before, hbefore, name, -, rfl⟩ := mem_heldNames.mp hheld
      exact (hwalked before hbefore).concat hfate

/-- A walk comes to every entry below directories that it enters, if it has levels enough. -/
theorem mem_visits_append {dir back : List String} {name : String} {levels : Nat}
    (hdir : dir ∈ directories) (hlevels : back.length < levels)
    (hfates : ∀ front, front <+: back → front ≠ [] →
      fate store root policy (dir ++ front) = .ok .entered)
    (hentries : ∀ front, front <+: back ++ [name] → front ≠ [] →
      store.entry? (root ++ (dir ++ front)) ≠ none) :
    dir ++ back ++ [name] ∈ visits store root policy levels directories := by
  induction back generalizing dir directories levels with
  | nil =>
    obtain ⟨levels, rfl⟩ := Nat.exists_eq_succ_of_ne_zero (Nat.ne_of_gt hlevels)
    have hchild : name ∈ store.children (root ++ dir) := by
      simpa [Store.mem_children] using hentries [name] (by simp) (by simp)
    rw [List.append_nil]
    exact List.mem_append_left _ (mem_heldNames.mpr ⟨dir, hdir, name, hchild, rfl⟩)
  | cons first back ih =>
    obtain ⟨levels, rfl⟩ := Nat.exists_eq_succ_of_ne_zero (Nat.ne_of_gt (Nat.zero_lt_of_lt hlevels))
    have hchild : first ∈ store.children (root ++ dir) := by
      simpa [Store.mem_children] using hentries [first] (by simp) (by simp)
    have hentered : dir ++ [first] ∈ enteredNames store root policy directories :=
      mem_enteredNames.mpr ⟨mem_heldNames.mpr ⟨dir, hdir, first, hchild, rfl⟩,
        hfates [first] (by simp) (by simp)⟩
    have hbelow := ih hentered (by simpa using hlevels)
      (fun front hfront _ => by
        simpa using hfates (first :: front) (List.cons_prefix_cons.mpr ⟨rfl, hfront⟩) (by simp))
      (fun front hfront _ => by
        simpa using hentries (first :: front) (List.cons_prefix_cons.mpr ⟨rfl, hfront⟩) (by simp))
    exact List.mem_append_right _ (by simpa using hbelow)

theorem pairwise_visited : (visited store root policy).Pairwise ComesBefore := by
  have hlength : ∀ dir ∈ [([] : List String)], dir.length = 0 := by simp
  exact pairwise_visits hlength (List.pairwise_singleton _ _) _

theorem met_of_mem_visits {levels : Nat} (h : names ∈ visits store root policy levels [[]]) :
    Met store root policy names := by
  obtain ⟨dir, hwalked, name, hname, rfl⟩ := exists_of_mem_visits (by simp [Walked]) h
  refine ⟨by simp, by simpa [Store.mem_children] using hname, fun front hfront hne hproper => ?_⟩
  have hbefore := (List.prefix_concat_iff.mp hfront).resolve_left hproper
  exact (fate_eq_entered.mp (hwalked front hbefore hne)).2

theorem Met.of_prefix (htree : store.IsTree) (h : Met store root policy names) {front : List String}
    (hfront : front <+: names) (hne : front ≠ []) : Met store root policy front := by
  refine ⟨hne, ?_, fun dir hdir hfilled hproper => h.way dir (hdir.trans hfront) hfilled ?_⟩
  · by_cases heq : front = names
    · rw [heq]
      exact h.isEntry
    · obtain ⟨entry, hentry⟩ := Option.ne_none_iff_exists'.mp h.isEntry
      simp [htree.directory_of_prefix hentry ((List.prefix_append_right_inj root).mpr hfront)
        (by simpa using heq)]
  · rintro rfl
    exact hproper (hdir.eq_of_length_le hfront.length_le)

/-- A directory on the way to what a walk may come to is entered, unless it cannot be looked up. -/
theorem Met.entered_or_tooLong (htree : store.IsTree) (h : Met store root policy names)
    {front : List String} (hfront : front <+: names) (hne : front ≠ []) (hproper : front ≠ names) :
    store.fullStatus (root ++ front) = .error .nameTooLong ∨
      fate store root policy front = .ok .entered := by
  obtain ⟨entry, hentry⟩ := Option.ne_none_iff_exists'.mp h.isEntry
  have hpassable := h.way front hfront hne hproper
  have hdirectory := htree.directory_of_prefix hentry
    ((List.prefix_append_right_inj root).mpr hfront) (by simpa using hproper)
  exact (htree.fullStatus_eq hdirectory hpassable.notLink).imp_right fun hstatus =>
    fate_eq_entered.mpr ⟨hstatus, hpassable⟩

/-- A walk comes to what it may come to, if the directories on the way can be looked up. -/
theorem Met.mem_visited (htree : store.IsTree) (h : Met store root policy names)
    (hfates : ∀ front, front <+: names → front ≠ [] → front ≠ names →
      fate store root policy front = .ok .entered) :
    names ∈ visited store root policy := by
  rcases List.eq_nil_or_concat' names with rfl | ⟨dir, name, rfl⟩
  · exact absurd rfl h.below
  · obtain ⟨entry, hentry⟩ := Option.ne_none_iff_exists'.mp h.isEntry
    have hdepth := Store.length_le_depth hentry
    simp only [List.length_append, List.length_singleton] at hdepth
    have hstart : ([] : List String) ∈ [([] : List String)] := by simp
    refine mem_visits_append hstart (by omega) (fun front hfront hfilled => ?_)
      fun front hfront hfilled => (h.of_prefix htree hfront hfilled).isEntry
    refine hfates front (hfront.trans (List.prefix_append _ _)) hfilled ?_
    rintro rfl
    simpa using hfront.length_le

/-- A walk comes to what it may come to, or before that to a directory on the way that cannot be
looked up. -/
theorem Met.mem_visited_or (htree : store.IsTree) (h : Met store root policy names) :
    names ∈ visited store root policy ∨
      ∃ front ∈ visited store root policy, front.length < names.length ∧
        store.fullStatus (root ++ front) = .error .nameTooLong := by
  induction hlength : names.length using Nat.strong_induction_on generalizing names with
  | _ n ih =>
    subst hlength
    by_cases hstuck : ∃ front, front <+: names ∧ front ≠ [] ∧ front ≠ names ∧
        store.fullStatus (root ++ front) = .error .nameTooLong
    · obtain ⟨front, hfront, hne, hproper, hstatus⟩ := hstuck
      have hshort : front.length < names.length :=
        lt_of_le_of_ne hfront.length_le fun heq => hproper (hfront.eq_of_length heq)
      rcases ih _ hshort (h.of_prefix htree hfront hne) rfl with hmem | ⟨before, hmem, hlt, hlong⟩
      · exact .inr ⟨front, hmem, hshort, hstatus⟩
      · exact .inr ⟨before, hmem, hlt.trans hshort, hlong⟩
    · refine .inl (h.mem_visited htree fun front hfront hne hproper => ?_)
      exact (h.entered_or_tooLong htree hfront hne hproper).resolve_left fun hstatus =>
        hstuck ⟨front, hfront, hne, hproper, hstatus⟩

end Coverage

end SourceCensus.Walk
