import Mathlib.Data.List.Infix
import Mathlib.Data.String.Basic
import SourceCensus.Proofs.Outcome
import SourceCensus.Proofs.Sequence
import SourceCensus.Store.Follow

/-! # Stores that are trees -/

namespace SourceCensus

/-- A component that is looked up below the directory where it is met. -/
def LeadsDown (name : String) : Prop :=
  staysPut name = false ∧ name ≠ ".."

instance (name : String) : Decidable (LeadsDown name) :=
  inferInstanceAs (Decidable (_ ∧ _))

namespace Store

/-- Every entry has components that can be looked up, and stands in a directory. -/
structure IsTree (store : Store) : Prop where
  leadsDown : ∀ entry ∈ store.entries, ∀ name ∈ entry.1, LeadsDown name
  fits : ∀ entry ∈ store.entries, ∀ name ∈ entry.1, name.utf8ByteSize ≤ nameLimit
  below : ∀ entry ∈ store.entries, store.entry? entry.1.dropLast = some .directory

instance (store : Store) : Decidable store.IsTree :=
  decidable_of_iff ((∀ entry ∈ store.entries, ∀ name ∈ entry.1, LeadsDown name) ∧
      (∀ entry ∈ store.entries, ∀ name ∈ entry.1, name.utf8ByteSize ≤ nameLimit) ∧
      ∀ entry ∈ store.entries, store.entry? entry.1.dropLast = some .directory)
    ⟨fun ⟨hdown, hfits, hbelow⟩ => ⟨hdown, hfits, hbelow⟩,
      fun htree => ⟨htree.leadsDown, htree.fits, htree.below⟩⟩

section Children

variable {store : Store} {directory names : List String} {name : String} {entry : Entry}

theorem entry_eq_lookup (h : names ≠ []) : store.entry? names = store.entries.lookup names := by
  unfold entry?
  simp [h]

theorem mem_entries_of_eq_some (hne : names ≠ []) (h : store.entry? names = some entry) :
    (names, entry) ∈ store.entries := by
  rw [entry_eq_lookup hne, List.lookup_eq_some_iff] at h
  obtain ⟨before, after, hentries, -⟩ := h
  simp [hentries]

theorem childOf?_eq_some : childOf? directory names = some name ↔ names = directory ++ [name] := by
  unfold childOf?
  constructor
  · intro h
    split_ifs at h with hdirectory
    rw [← hdirectory]
    exact (List.dropLast_append_getLast? name h).symm
  · rintro rfl
    simp

theorem mem_children :
    name ∈ store.children directory ↔ store.entry? (directory ++ [name]) ≠ none := by
  rw [entry_eq_lookup (by simp), ← Option.isSome_iff_ne_none, List.lookup_isSome_iff, children,
    List.mem_mergeSort, List.mem_eraseDups, List.mem_filterMap]
  constructor
  · rintro ⟨names, hmem, hchild⟩
    obtain ⟨entry, hentry, rfl⟩ := List.mem_map.mp hmem
    exact ⟨entry, hentry, by simp [childOf?_eq_some.mp hchild]⟩
  · rintro ⟨entry, hentry, hnames⟩
    exact ⟨entry.1, List.mem_map_of_mem hentry, childOf?_eq_some.mpr (eq_of_beq hnames).symm⟩

theorem pairwise_children (store : Store) (directory : List String) :
    (store.children directory).Pairwise (· < ·) := by
  have hsorted : (store.children directory).Pairwise (fun a b => decide (a ≤ b) = true) := by
    apply List.pairwise_mergeSort
    · intro a b c hab hbc
      simp only [decide_eq_true_eq] at *
      exact hab.trans hbc
    · intro a b
      simpa using le_total a b
  have hnodup : (store.children directory).Nodup :=
    (List.mergeSort_perm _ _).nodup_iff.mpr (Sequence.nodup_eraseDups _)
  refine (hsorted.and hnodup).imp ?_
  rintro a b ⟨hle, hne⟩
  exact lt_of_le_of_ne (by simpa using hle) hne

theorem length_le_depth (h : store.entry? names = some entry) : names.length ≤ store.depth := by
  have hmax (lengths : List Nat) (start : Nat) :
      start ≤ lengths.foldl max start ∧ ∀ n ∈ lengths, n ≤ lengths.foldl max start := by
    induction lengths generalizing start with
    | nil => simp
    | cons n lengths ih =>
      obtain ⟨hstart, hrest⟩ := ih (max start n)
      simp only [List.foldl_cons, List.forall_mem_cons]
      exact ⟨by omega, by omega, hrest⟩
  by_cases hne : names = []
  · simp [hne]
  · exact (hmax _ 0).2 _ (List.mem_map.mpr ⟨_, mem_entries_of_eq_some hne h, rfl⟩)

end Children

section Full

variable {store : Store} {names : List String} {entry : Entry}

theorem fullStatus_eq_ok : store.fullStatus names = .ok entry ↔
    store.isTooLong names = false ∧ store.status names = .ok entry := by
  unfold fullStatus
  cases store.isTooLong names <;> simp

theorem fullStatus_of_isTooLong (h : store.isTooLong names = true) :
    store.fullStatus names = .error .nameTooLong := by
  rw [fullStatus, if_pos h]

end Full

section Follow

variable {store : Store} {here names rest : List String} {hops : Nat} {entry : Entry}

theorem follow_append (hleads : ∀ name ∈ names, LeadsDown name)
    (hfits : ∀ name ∈ names, name.utf8ByteSize ≤ nameLimit)
    (hway : ∀ dir, dir <+: names → dir ≠ [] → store.entry? (here ++ dir) = some .directory) :
    store.follow false hops here (names ++ rest) = store.follow false hops (here ++ names) rest := by
  induction names generalizing here with
  | nil => simp
  | cons name names ih =>
    have hname := hleads name (by simp)
    have hsize : ¬ nameLimit < name.utf8ByteSize := Nat.not_lt.mpr (hfits name (by simp))
    have hfirst : store.entry? (here ++ [name]) = some .directory := hway [name] (by simp) (by simp)
    rw [List.cons_append, follow]
    simp only [hname.1, hname.2, hsize, hfirst, Bool.false_and, Bool.false_eq_true, if_false]
    rw [ih (fun n hn => hleads n (by simp [hn])) (fun n hn => hfits n (by simp [hn]))]
    · simp
    · intro dir hdir hne
      have hprefix : name :: dir <+: name :: names := List.cons_prefix_cons.mpr ⟨rfl, hdir⟩
      simpa using hway (name :: dir) hprefix (by simp)

/-- A component that leads somewhere is an entry; where there is more behind it, and it is no link, it
is a directory, and the rest is followed from there. -/
theorem follow_cons {name : String} {found : List String} (hname : LeadsDown name)
    (h : store.follow false hops here (name :: names) = .ok (.entry found)) :
    store.entry? (here ++ [name]) ≠ none ∧
      (names ≠ [] → store.isLink (here ++ [name]) = false →
        store.entry? (here ++ [name]) = some .directory ∧
          store.follow false hops (here ++ [name]) names = .ok (.entry found)) := by
  rw [follow] at h
  simp only [hname.1, hname.2, Bool.false_and, Bool.false_eq_true, if_false] at h
  rw [if_neg (fun hlong => by simp [hlong] at h)] at h
  cases hentry : store.entry? (here ++ [name]) with
  | none =>
    simp only [hentry] at h
    split_ifs at h
    cases h
  | some entry =>
    refine ⟨by simp, fun hmore hlink => ?_⟩
    cases entry with
    | file content => simp [hentry, hmore] at h
    | directory =>
      rw [hentry] at h
      exact ⟨rfl, h⟩
    | link target => simp [isLink, hentry] at hlink

/-- A name that leads to an entry without a link on its way passes directories only. -/
theorem directories_of_follow {found : List String} (hleads : ∀ name ∈ names, LeadsDown name)
    (hway : ∀ dir, dir <+: names → dir ≠ [] → dir ≠ names → store.isLink (here ++ dir) = false)
    (h : store.follow false hops here names = .ok (.entry found)) :
    (∀ dir, dir <+: names → dir ≠ [] → dir ≠ names → store.entry? (here ++ dir) = some .directory) ∧
      (names ≠ [] → store.entry? (here ++ names) ≠ none) := by
  induction names generalizing here with
  | nil => exact ⟨fun dir hdir hne => absurd (List.prefix_nil.mp hdir) hne, fun h => absurd rfl h⟩
  | cons name names ih =>
    obtain ⟨hsome, hmore⟩ := follow_cons (hleads name (by simp)) h
    by_cases hlast : names = []
    · subst hlast
      refine ⟨fun dir hdir hne hne' => ?_, fun _ => hsome⟩
      have hlength := hdir.length_le
      have hpos := List.length_pos_of_ne_nil hne
      simp only [List.length_singleton] at hlength
      exact absurd (hdir.eq_of_length (by simp only [List.length_singleton]; omega)) hne'
    · obtain ⟨hfirst, hfollow⟩ :=
        hmore hlast (hway [name] (by simp) (by simp) (by simpa using hlast))
      have hbelow : ∀ dir, dir <+: names → dir ≠ [] → dir ≠ names →
          store.isLink (here ++ [name] ++ dir) = false := by
        intro dir hdir hne hne'
        have hprefix : name :: dir <+: name :: names := List.cons_prefix_cons.mpr ⟨rfl, hdir⟩
        simpa using hway (name :: dir) hprefix (by simp) (by simpa using hne')
      obtain ⟨hdirectories, hend⟩ := ih (fun n hn => hleads n (by simp [hn])) hbelow hfollow
      refine ⟨fun dir hdir hne hne' => ?_, fun _ => by simpa using hend hlast⟩
      cases dir with
      | nil => exact absurd rfl hne
      | cons first dir =>
        obtain ⟨rfl, hprefix⟩ := List.cons_prefix_cons.mp hdir
        by_cases hdown : dir = []
        · simpa [hdown] using hfirst
        · simpa using hdirectories dir hprefix hdown (by simpa using hne')

end Follow

namespace IsTree

variable {store : Store} {dir names : List String} {entry : Entry}

theorem components (htree : store.IsTree) (h : store.entry? names = some entry) :
    ∀ name ∈ names, LeadsDown name ∧ name.utf8ByteSize ≤ nameLimit := by
  intro name hname
  have hmem := mem_entries_of_eq_some (List.ne_nil_of_mem hname) h
  exact ⟨htree.leadsDown _ hmem name hname, htree.fits _ hmem name hname⟩

theorem directory_of_prefix (htree : store.IsTree) (h : store.entry? names = some entry)
    (hdir : dir <+: names) (hne : dir ≠ names) : store.entry? dir = some .directory := by
  induction names using List.reverseRecOn generalizing entry with
  | nil => exact absurd (List.prefix_nil.mp hdir) hne
  | append_singleton names name ih =>
    have hparent : store.entry? names = some .directory := by
      simpa using htree.below _ (mem_entries_of_eq_some (by simp) h)
    rcases List.prefix_concat_iff.mp hdir with rfl | hdir
    · exact absurd rfl hne
    · by_cases heq : dir = names
      · rw [heq]
        exact hparent
      · exact ih hparent hdir heq

/-- A name below a directory is followed from that directory. -/
theorem follow_below (htree : store.IsTree) (h : store.entry? dir = some .directory) (hops : Nat)
    (names : List String) :
    store.follow false hops [] (dir ++ names) = store.follow false hops dir names := by
  have hcomponents := htree.components h
  rw [follow_append (fun name hname => (hcomponents name hname).1)
    (fun name hname => (hcomponents name hname).2), List.nil_append]
  intro front hfront _
  by_cases heq : front = dir
  · rw [heq]
    exact h
  · exact htree.directory_of_prefix h hfront heq

theorem locate_eq (htree : store.IsTree) (h : store.entry? names = some entry)
    (hlink : store.isLink names = false) : store.locate names = .ok names := by
  induction names using List.reverseRecOn with
  | nil =>
    rw [locate, follow]
    rfl
  | append_singleton names name _ =>
    obtain ⟨hleads, hsize⟩ := htree.components h name (by simp)
    have hparent : store.entry? names = some .directory :=
      htree.directory_of_prefix h (List.prefix_append _ _) (by simp)
    have hfollow : store.follow false linkLimit names [name] = .ok (.entry (names ++ [name])) := by
      rw [follow]
      simp only [hleads.1, hleads.2, Nat.not_lt.mpr hsize, h, Bool.false_and, Bool.false_eq_true,
        if_false]
      cases entry with
      | file content => rfl
      | directory => rw [follow]
      | link target => simp [isLink, h] at hlink
    rw [locate, htree.follow_below hparent, hfollow]
    rfl

theorem status_eq (htree : store.IsTree) (h : store.entry? names = some entry)
    (hlink : store.isLink names = false) : store.status names = .ok entry := by
  rw [status, htree.locate_eq h hlink, ok_bind, h]
  rfl

/-- An entry that is no link can be looked up unless its path is too long. -/
theorem fullStatus_eq (htree : store.IsTree) (h : store.entry? names = some entry)
    (hlink : store.isLink names = false) :
    store.fullStatus names = .error .nameTooLong ∨ store.fullStatus names = .ok entry := by
  cases hlong : store.isTooLong names with
  | true => exact .inl (fullStatus_of_isTooLong hlong)
  | false => exact .inr (fullStatus_eq_ok.mpr ⟨hlong, htree.status_eq h hlink⟩)

theorem fullRead_eq (htree : store.IsTree) {content : List UInt8}
    (h : store.entry? names = some (.file content)) (hlong : store.isTooLong names = false) :
    store.fullRead names = .ok content := by
  have hlink : store.isLink names = false := by simp [isLink, h]
  rw [fullRead, hlong, read, htree.status_eq h hlink]
  rfl

theorem list_eq (htree : store.IsTree) (h : store.entry? names = some .directory) :
    store.list names = .ok (store.children names) := by
  have hlink : store.isLink names = false := by simp [isLink, h]
  rw [list, htree.locate_eq h hlink, ok_bind, h]
  rfl

theorem fullList_eq (htree : store.IsTree) (h : store.entry? names = some .directory)
    (hlong : store.isTooLong names = false) : store.fullList names = .ok (store.children names) := by
  rw [fullList, hlong]
  exact htree.list_eq h

theorem follow_of_isFile (htree : store.IsTree) (hdir : store.entry? dir = some .directory)
    (h : store.isFile (dir ++ names) = true) :
    ∃ found, store.follow false linkLimit dir names = .ok (.entry found) := by
  rw [isFile, status, locate, htree.follow_below hdir] at h
  cases hlanding : store.follow false linkLimit dir names with
  | error cause => simp [hlanding, bind, Except.bind] at h
  | ok landing =>
    cases landing with
    | entry found => exact ⟨found, rfl⟩
    | vacant directory name => simp [hlanding, bind, Except.bind, throw, throwThe] at h

end IsTree

end Store

end SourceCensus
