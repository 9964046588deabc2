import Mathlib.Data.List.Perm.Subperm
import SourceCensus.Proofs.Walk.Visits

/-! # The queue of a walk takes the levels of a tree one after the other -/

namespace SourceCensus.Walk

variable {store : Store} {root names : List String} {policy : Policy} {progress : Progress}
  {directories : List (List String)} {outcome : Except AccessFault Progress}

/-- The loop over the queue, without any bound on the directories.  A loop that went on for ever
would end in nothing. -/
inductive QueueEnds (store : Store) (root : List String) (policy : Policy) :
    Progress → Except AccessFault Progress → Prop
  | done {progress : Progress} (h : progress.queue = []) :
    QueueEnds store root policy progress (.ok progress)
  | stopped {directory : List String} {queue : List (List String)} {sources : List Source}
      {skipped : Nat} {fault : AccessFault}
      (h : (lookInto store root policy directory ⟨queue, sources, skipped⟩).outcome = .error fault) :
    QueueEnds store root policy ⟨directory :: queue, sources, skipped⟩ (.error fault)
  | next {directory : List String} {queue : List (List String)} {sources : List Source}
      {skipped : Nat} {progress : Progress} {outcome : Except AccessFault Progress}
      (h : (lookInto store root policy directory ⟨queue, sources, skipped⟩).outcome = .ok progress)
      (rest : QueueEnds store root policy progress outcome) :
    QueueEnds store root policy ⟨directory :: queue, sources, skipped⟩ outcome

/-- Whether an entry cannot be looked up. -/
def stopsWalk (store : Store) (root names : List String) : Bool :=
  store.fullStatus (root ++ names) matches .error .nameTooLong

/-- The fault in which an entry that cannot be looked up ends a walk. -/
def stopFault (store : Store) (root names : List String) : AccessFault :=
  ⟨.nameTooLong, store.pathText (root ++ names)⟩

def keptLanguage? : Except AccessFault Fate → Option Language
  | .ok (.kept language) => some language
  | _ => none

def keptNames (store : Store) (root : List String) (policy : Policy) (list : List (List String)) :
    List (List String × Language) :=
  list.filterMap fun names => (keptLanguage? (fate store root policy names)).map fun language =>
    (names, language)

def sourceOf (root : List String) (kept : List String × Language) : Source :=
  ⟨root ++ kept.1, relativeText kept.1, kept.2⟩

/-- What coming to names adds to a walk. -/
def gather (store : Store) (root : List String) (policy : Policy) (list : List (List String)) :
    Progress where
  queue := list.filter fun names => fate store root policy names = .ok .entered
  sources := (keptNames store root policy list).map (sourceOf root)
  skipped := list.countP fun names => fate store root policy names = .ok .skipped

namespace Progress

def join (a b : Progress) : Progress :=
  ⟨a.queue ++ b.queue, a.sources ++ b.sources, a.skipped + b.skipped⟩

def behind (front : List (List String)) (progress : Progress) : Progress :=
  { progress with queue := front ++ progress.queue }

def settled (progress : Progress) : Progress :=
  { progress with queue := [] }

@[simp] theorem behind_settled (progress : Progress) :
    progress.settled.behind progress.queue = progress := by
  simp [behind, settled]

end Progress

section Entries

variable {language : Language} {list : List (List String)}

theorem stopsWalk_iff : stopsWalk store root names = true ↔
    store.fullStatus (root ++ names) = .error .nameTooLong := by
  unfold stopsWalk
  split <;> simp_all

theorem mem_keptNames : (names, language) ∈ keptNames store root policy list ↔
    names ∈ list ∧ fate store root policy names = .ok (.kept language) := by
  have hlanguage (fate : Except AccessFault Fate) :
      keptLanguage? fate = some language ↔ fate = .ok (.kept language) := by
    rcases fate with fault | _ | _ | _ | _ <;> simp [keptLanguage?]
  simp [keptNames, List.mem_filterMap, hlanguage]

theorem pairwise_keptNames (h : list.Pairwise ComesBefore) :
    (keptNames store root policy list).Pairwise fun a b => ComesBefore a.1 b.1 := by
  refine h.filterMap _ fun a b hab kept hkept kept' hkept' => ?_
  obtain ⟨language, -, rfl⟩ := Option.map_eq_some_iff.mp hkept
  obtain ⟨language', -, rfl⟩ := Option.map_eq_some_iff.mp hkept'
  exact hab

theorem gather_cons (list : List (List String)) : gather store root policy (names :: list) =
    (gather store root policy [names]).join (gather store root policy list) := by
  rcases hfate : fate store root policy names with fault | _ | _ | _ | _ <;>
    simp [gather, Progress.join, keptNames, keptLanguage?, hfate, Nat.add_comm]

theorem meet_eq (progress : Progress) : meet store root policy progress names =
    if stopsWalk store root names then .error (stopFault store root names)
    else .ok (progress.join (gather store root policy [names])) := by
  rcases hfate : fate store root policy names with fault | fate
  · obtain ⟨hstatus, rfl⟩ := fate_eq_error.mp hfate
    rw [if_pos (stopsWalk_iff.mpr hstatus), meet, hfate]
    rfl
  · have hgoes : stopsWalk store root names = false := by
      rw [Bool.eq_false_iff, ne_eq, stopsWalk_iff]
      intro hstatus
      simp [fate_eq_error.mpr ⟨hstatus, rfl⟩] at hfate
    rw [hgoes, meet, hfate]
    cases fate <;> simp [gather, Progress.join, keptNames, keptLanguage?, sourceOf, hfate]

theorem foldlM_meet (list : List (List String)) (progress : Progress) :
    list.foldlM (meet store root policy) progress =
      match list.find? (stopsWalk store root) with
      | some names => .error (stopFault store root names)
      | none => .ok (progress.join (gather store root policy list)) := by
  induction list generalizing progress with
  | nil => simp [gather, keptNames, Progress.join]
  | cons names list ih =>
    rw [List.foldlM_cons, meet_eq]
    cases hstops : stopsWalk store root names with
    | true => simp [List.find?_cons_of_pos, hstops, bind, Except.bind]
    | false =>
      rw [List.find?_cons_of_neg (by simp [hstops]), gather_cons list, if_neg (by simp), ok_bind, ih]
      simp [Progress.join, Nat.add_assoc]

/-- What stands in front of the queue makes no difference. -/
theorem foldlM_meet_behind (list : List (List String)) (front : List (List String))
    (progress : Progress) : list.foldlM (meet store root policy) (progress.behind front) =
      Progress.behind front <$> list.foldlM (meet store root policy) progress := by
  rw [foldlM_meet, foldlM_meet]
  cases list.find? (stopsWalk store root) with
  | some names => rfl
  | none => simp [Progress.behind, Progress.join]

theorem foldlM_meet_settled (list : List (List String)) (progress : Progress) :
    list.foldlM (meet store root policy) progress =
      Progress.behind progress.queue <$> list.foldlM (meet store root policy) progress.settled := by
  rw [← foldlM_meet_behind, Progress.behind_settled]

end Entries

section Levels

/-- What a walk enters is a directory itself, and does not only lead to one. -/
theorem entry_of_mem_enteredNames (htree : store.IsTree)
    (h : names ∈ enteredNames store root policy directories) :
    store.entry? (root ++ names) = some .directory ∧ store.isTooLong (root ++ names) = false := by
  obtain ⟨hheld, hfate⟩ := mem_enteredNames.mp h
  obtain ⟨dir, -, name, hname, rfl⟩ := mem_heldNames.mp hheld
  obtain ⟨hstatus, hpassable⟩ := fate_eq_entered.mp hfate
  obtain ⟨hlong, hdirectory⟩ := Store.fullStatus_eq_ok.mp hstatus
  rw [Store.mem_children, List.append_assoc] at hname
  obtain ⟨entry, hentry⟩ := Option.ne_none_iff_exists'.mp hname
  have hsame := (htree.status_eq hentry hpassable.notLink).symm.trans hdirectory
  exact ⟨hentry.trans (congrArg some (Except.ok.inj hsame)), hlong⟩

theorem lookInto_eq (h : store.fullList (root ++ names) = .ok (store.children (root ++ names)))
    (progress : Progress) : lookInto store root policy names progress =
      Run.ofExcept ((heldNames store root [names]).foldlM (meet store root policy) progress) := by
  have hown : (entriesOf store root names : Run AccessFault _) =
      pure (heldNames store root [names]) := by
    simp only [entriesOf, h, heldNames, List.flatMap_cons, List.flatMap_nil, List.append_nil]
    rfl
  rw [lookInto, hown, pure_bind]

/-- The directories in front of the queue are looked into one after the other, and what is entered
meanwhile stands behind all the rest. -/
theorem walkQueue_level (policy : Policy) (fuel : Nat)
    (h : ∀ dir ∈ directories, store.fullList (root ++ dir) = .ok (store.children (root ++ dir)))
    (progress : Progress) :
    walkQueue store root policy (directories.length + fuel) (progress.behind directories) =
      Run.ofExcept ((heldNames store root directories).foldlM (meet store root policy) progress) >>=
        walkQueue store root policy fuel := by
  induction directories generalizing progress with
  | nil => simp [heldNames, Progress.behind, Run.ofExcept_ok]
  | cons dir directories ih =>
    obtain ⟨hdir, hrest⟩ := List.forall_mem_cons.mp h
    have hpop : walkQueue store root policy ((dir :: directories).length + fuel)
        (progress.behind (dir :: directories)) =
          lookInto store root policy dir (progress.behind directories) >>=
            walkQueue store root policy (directories.length + fuel) := by
      rw [List.length_cons, Nat.succ_add]
      rfl
    have hheld : heldNames store root (dir :: directories) =
        heldNames store root [dir] ++ heldNames store root directories := by
      simp [heldNames]
    rw [hpop, lookInto_eq hdir, foldlM_meet_behind, hheld, List.foldlM_append]
    cases (heldNames store root [dir]).foldlM (meet store root policy) progress with
    | error fault => rfl
    | ok progress =>
      rw [map_ok, Run.ofExcept_ok, pure_bind, ih hrest, ok_bind]

/-- In a tree the loop comes to the entries of one level after the other. -/
theorem walkQueue_eq (htree : store.IsTree) {level levels fuel : Nat}
    (hdirectories : ∀ dir ∈ progress.queue, store.entry? (root ++ dir) = some .directory ∧
      store.isTooLong (root ++ dir) = false)
    (hlength : ∀ dir ∈ progress.queue, dir.length = level)
    (hlevels : store.depth < level + levels)
    (hfuel : progress.queue.length + (visits store root policy levels progress.queue).countP
      (fun names => fate store root policy names = .ok .entered) ≤ fuel) :
    walkQueue store root policy fuel progress = Run.ofExcept (Progress.settled <$>
      (visits store root policy levels progress.queue).foldlM (meet store root policy)
        progress.settled) := by
  induction levels generalizing level fuel progress with
  | zero =>
    have hqueue : progress.queue = [] := by
      refine List.eq_nil_iff_forall_not_mem.mpr fun dir hdir => ?_
      have hdepth := Store.length_le_depth (hdirectories dir hdir).1
      have hlevel := hlength dir hdir
      simp only [List.length_append] at hdepth
      omega
    obtain ⟨queue, sources, skipped⟩ := progress
    cases hqueue
    cases fuel <;> rfl
  | succ levels ih =>
    have hlist : ∀ dir ∈ progress.queue,
        store.fullList (root ++ dir) = .ok (store.children (root ++ dir)) :=
      fun dir hdir => htree.fullList_eq (hdirectories dir hdir).1 (hdirectories dir hdir).2
    obtain ⟨more, rfl⟩ := Nat.exists_eq_add_of_le (Nat.le_of_add_right_le hfuel)
    have hround : walkQueue store root policy (progress.queue.length + more) progress =
        Run.ofExcept ((heldNames store root progress.queue).foldlM (meet store root policy)
          progress.settled) >>= walkQueue store root policy more := by
      have hlevel := walkQueue_level policy more hlist progress.settled
      rwa [Progress.behind_settled] at hlevel
    rw [hround, visits, List.foldlM_append, foldlM_meet]
    cases (heldNames store root progress.queue).find? (stopsWalk store root) with
    | some names => rfl
    | none =>
      have hentered : (progress.settled.join
          (gather store root policy (heldNames store root progress.queue))).queue =
            enteredNames store root policy progress.queue := by
        simp [Progress.join, Progress.settled, gather, enteredNames]
      generalize progress.settled.join
        (gather store root policy (heldNames store root progress.queue)) = reached at hentered ⊢
      have hmore : (enteredNames store root policy progress.queue).length +
          (visits store root policy levels (enteredNames store root policy progress.queue)).countP
            (fun names => fate store root policy names = .ok .entered) ≤ more := by
        rw [visits, List.countP_append, List.countP_eq_length_filter] at hfuel
        exact Nat.le_of_add_le_add_left hfuel
      rw [← hentered] at hmore ⊢
      have hdirectory : ∀ dir ∈ reached.queue, store.entry? (root ++ dir) = some .directory ∧
          store.isTooLong (root ++ dir) = false :=
        fun dir hdir => entry_of_mem_enteredNames htree (hentered ▸ hdir)
      have hbelow : ∀ dir ∈ reached.queue, dir.length = level + 1 :=
        fun dir hdir => length_of_mem_enteredNames hlength dir (hentered ▸ hdir)
      simp only [ok_bind, Run.ofExcept_ok, pure_bind]
      rw [ih hdirectory hbelow (by omega) hmore,
        foldlM_meet_settled (visits store root policy levels reached.queue) reached]
      cases (visits store root policy levels reached.queue).foldlM (meet store root policy)
        reached.settled <;> rfl

end Levels

section Ends

/-- The loop with fuel ends as the one without any bound, if nothing is left in the queue. -/
theorem queueEnds_of_walkQueue {fuel : Nat}
    (h : ∀ left, (walkQueue store root policy fuel progress).outcome = .ok left → left.queue = []) :
    QueueEnds store root policy progress (walkQueue store root policy fuel progress).outcome := by
  induction fuel generalizing progress with
  | zero => exact .done (h _ rfl)
  | succ fuel ih =>
    obtain ⟨_ | ⟨directory, queue⟩, sources, skipped⟩ := progress
    · exact .done rfl
    · rw [walkQueue, Run.outcome_bind] at h ⊢
      cases hlook : (lookInto store root policy directory ⟨queue, sources, skipped⟩).outcome with
      | error fault => exact .stopped hlook
      | ok progress =>
        simp only [hlook, ok_bind] at h ⊢
        exact .next hlook (ih h)

/-- A walk comes to no more entries than the store has. -/
theorem length_visited_le : (visited store root policy).length ≤ store.entries.length := by
  have hnodup : ((visited store root policy).map (root ++ ·)).Nodup := by
    refine List.Nodup.map (List.append_right_injective root)
      (pairwise_visited.imp fun hbefore heq => ?_)
    subst heq
    rcases hbefore with hlt | ⟨-, hlt⟩
    · exact lt_irrefl _ hlt
    · exact lt_irrefl _ hlt
  have hsub : (visited store root policy).map (root ++ ·) ⊆ store.entries.map (·.1) := by
    rintro _ hmem
    obtain ⟨names, hvisited, rfl⟩ := List.mem_map.mp hmem
    have hmet := met_of_mem_visits hvisited
    obtain ⟨entry, hentry⟩ := Option.ne_none_iff_exists'.mp hmet.isEntry
    have hne : root ++ names ≠ [] := by simp [hmet.below]
    exact List.mem_map.mpr ⟨_, Store.mem_entries_of_eq_some hne hentry, rfl⟩
  simpa using (hnodup.subperm hsub).length_le

theorem walkQueue_start (htree : store.IsTree) (hroot : store.entry? root = some .directory)
    (hlong : store.isTooLong root = false) :
    walkQueue store root policy (store.entries.length + 1) { queue := [[]] } =
      Run.ofExcept (Progress.settled <$>
        (visited store root policy).foldlM (meet store root policy) {}) := by
  have hlength : ∀ dir ∈ [([] : List String)], dir.length = 0 := by simp
  have hlevels : store.depth < 0 + (store.depth + 1) := by omega
  have hcount : (visited store root policy).countP
      (fun names => fate store root policy names = .ok .entered) ≤ store.entries.length :=
    List.countP_le_length.trans length_visited_le
  refine walkQueue_eq htree ?_ hlength hlevels ?_
  · simp [hroot, hlong]
  · rw [List.length_singleton, Nat.add_comm]
    exact Nat.add_le_add_right hcount 1

/-- The loop over the queue ends, whatever the number of directories. -/
theorem queueEnds (htree : store.IsTree) (hroot : store.entry? root = some .directory)
    (hlong : store.isTooLong root = false) :
    QueueEnds store root policy { queue := [[]] }
      (walkQueue store root policy (store.entries.length + 1) { queue := [[]] }).outcome := by
  refine queueEnds_of_walkQueue fun left hleft => ?_
  rw [walkQueue_start htree hroot hlong, Run.outcome_ofExcept] at hleft
  cases hfold : (visited store root policy).foldlM (meet store root policy) {} with
  | error fault => simp [hfold] at hleft
  | ok progress =>
    rw [hfold, map_ok] at hleft
    rw [← Except.ok.inj hleft]
    rfl

theorem outcome_walk (htree : store.IsTree) (hroot : store.entry? root = some .directory)
    (hlong : store.isTooLong root = false) (policy : Policy) : (walk store root policy).outcome =
      match (visited store root policy).find? (stopsWalk store root) with
      | some names => .error (stopFault store root names)
      | none => .ok ((keptNames store root policy (visited store root policy)).map
          (sourceOf root)) := by
  rw [walk, walkQueue_start htree hroot hlong, foldlM_meet]
  cases (visited store root policy).find? (stopsWalk store root) <;> rfl

theorem outcome_walk_eq_map : (walk store root policy).outcome = Progress.sources <$>
    (walkQueue store root policy (store.entries.length + 1) { queue := [[]] }).outcome := by
  rw [walk, Run.outcome_bind]
  cases (walkQueue store root policy (store.entries.length + 1) { queue := [[]] }).outcome <;> rfl

end Ends

end SourceCensus.Walk
