import Mathlib.Data.List.Perm.Subperm
import SourceCensus.Proofs.Pieces
import SourceCensus.Proofs.Store.Tree

/-! # Real paths of names that lead somewhere -/

namespace SourceCensus.Store

variable {store : Store} {here names rest found mid place : List String} {name target : String}
  {entry : Entry} {hops fuel cost c c' : Nat}

/-- No name and no target of a link holds a null character. -/
structure IsNullFree (store : Store) : Prop where
  current : ∀ name ∈ store.current, Path.holdsNull name = false
  names : ∀ entry ∈ store.entries, ∀ name ∈ entry.1, Path.holdsNull name = false
  targets : ∀ entry ∈ store.entries, ∀ target, entry.2 = .link target →
    Path.holdsNull target = false

def targetStart (here : List String) (target : String) : List String :=
  if isAbsolute target then [] else here

/-- From the directory `here` the names lead to `found`, and there are `cost` links on the way. -/
inductive Leads (store : Store) : List String → List String → List String → Nat → Prop where
  | here {here : List String} : Leads store here [] here 0
  | stay {here rest found : List String} {name : String} {cost : Nat} (hname : staysPut name = true)
      (hrest : Leads store here rest found cost) : Leads store here (name :: rest) found cost
  | up {here rest found : List String} {cost : Nat} (hrest : Leads store here.dropLast rest found cost) :
      Leads store here (".." :: rest) found cost
  | down {here rest found : List String} {name : String} {cost : Nat} (hname : LeadsDown name)
      (hlink : store.isLink (here ++ [name]) = false)
      (hrest : Leads store (here ++ [name]) rest found cost) :
      Leads store here (name :: rest) found cost
  | link {here rest mid found : List String} {name target : String} {c cost : Nat}
      (hname : LeadsDown name) (hentry : store.entry? (here ++ [name]) = some (.link target))
      (hbase : isAbsolute target = true → store.base = "")
      (htarget : Leads store (targetStart here target) (targetNames target) mid c)
      (hrest : Leads store mid rest found cost) :
      Leads store here (name :: rest) found (c + 1 + cost)

namespace Leads

/-- Names one after the other lead on from where the first of them lead. -/
theorem split {more : List String} (h : Leads store here (names ++ more) found cost) :
    ∃ mid c c', Leads store here names mid c ∧ Leads store mid more found c' ∧ c + c' = cost := by
  induction names generalizing here cost with
  | nil => exact ⟨here, 0, cost, .here, h, Nat.zero_add cost⟩
  | cons name names ih =>
    rw [List.cons_append] at h
    cases h with
    | stay hname hrest =>
      obtain ⟨mid, c, c', hfirst, hmore, hsum⟩ := ih hrest
      exact ⟨mid, c, c', .stay hname hfirst, hmore, hsum⟩
    | up hrest =>
      obtain ⟨mid, c, c', hfirst, hmore, hsum⟩ := ih hrest
      exact ⟨mid, c, c', .up hfirst, hmore, hsum⟩
    | down hname hlink hrest =>
      obtain ⟨mid, c, c', hfirst, hmore, hsum⟩ := ih hrest
      exact ⟨mid, c, c', .down hname hlink hfirst, hmore, hsum⟩
    | link hname hentry hbase htarget hrest =>
      obtain ⟨mid, c, c', hfirst, hmore, hsum⟩ := ih hrest
      exact ⟨mid, _, c', .link hname hentry hbase htarget hfirst, hmore, by omega⟩

theorem unique {found' : List String} (h : Leads store here names found c)
    (h' : Leads store here names found' c') : found = found' ∧ c = c' := by
  induction h generalizing found' c' with
  | here =>
    cases h'
    exact ⟨rfl, rfl⟩
  | stay hname _ ih =>
    cases h' with
    | stay _ hrest => exact ih hrest
    | up => simp [staysPut] at hname
    | down hdown => simp [hdown.1] at hname
    | link hdown => simp [hdown.1] at hname
  | up _ ih =>
    cases h' with
    | stay hname => simp [staysPut] at hname
    | up hrest => exact ih hrest
    | down hdown => exact absurd rfl hdown.2
    | link hdown => exact absurd rfl hdown.2
  | down hname hlink _ ih =>
    cases h' with
    | stay hstay => simp [hname.1] at hstay
    | up => exact absurd rfl hname.2
    | down _ _ hrest => exact ih hrest
    | link _ hentry => simp [isLink, hentry] at hlink
  | link hname hentry _ _ _ ihtarget ihrest =>
    cases h' with
    | stay hstay => simp [hname.1] at hstay
    | up => exact absurd rfl hname.2
    | down _ hlink => simp [isLink, hentry] at hlink
    | link _ hentry' _ htarget hrest =>
      rw [hentry] at hentry'
      cases hentry'
      obtain ⟨rfl, rfl⟩ := ihtarget htarget
      obtain ⟨rfl, rfl⟩ := ihrest hrest
      exact ⟨rfl, rfl⟩

end Leads

theorem Leads.of_target (hname : LeadsDown name)
    (hentry : store.entry? (here ++ [name]) = some (.link target))
    (hbase : isAbsolute target = true → store.base = "")
    (h : Leads store (targetStart here target) (targetNames target ++ rest) found cost) :
    ∃ c, Leads store here (name :: rest) found c := by
  obtain ⟨mid, c, c', htarget, hrest, -⟩ := h.split
  exact ⟨_, .link hname hentry hbase htarget hrest⟩

theorem IsTree.entry_dropLast (htree : store.IsTree) (h : store.entry? here = some .directory) :
    store.entry? here.dropLast = some .directory := by
  by_cases hne : here.dropLast = here
  · rw [hne]
    exact h
  · exact htree.directory_of_prefix h (List.dropLast_prefix here) hne

/-- A name that is followed to an entry leads to it, and what stands there is no link. -/
theorem leads_of_follow (htree : store.IsTree) (hhere : store.entry? here = some .directory)
    (h : store.follow false hops here names = .ok (.entry found)) :
    (∃ cost, Leads store here names found cost) ∧ store.entry? found ≠ none ∧
      store.isLink found = false := by
  fun_induction follow store false hops here names with
  | case1 hops here =>
    cases h
    exact ⟨⟨0, .here⟩, by simp [hhere], by simp [isLink, hhere]⟩
  | case2 hops here name rest hstay ih =>
    obtain ⟨⟨cost, hrest⟩, hend⟩ := ih hhere h
    exact ⟨⟨cost, .stay hstay hrest⟩, hend⟩
  | case3 hops here rest _ ih =>
    obtain ⟨⟨cost, hrest⟩, hend⟩ := ih (htree.entry_dropLast hhere) h
    exact ⟨⟨cost, .up hrest⟩, hend⟩
  | case8 hops here name rest hstay hup _ _ hentry ih =>
    obtain ⟨⟨cost, hrest⟩, hend⟩ := ih hentry h
    have hlink : store.isLink (here ++ [name]) = false := by simp [isLink, hentry]
    exact ⟨⟨cost, .down ⟨by simpa using hstay, hup⟩ hlink hrest⟩, hend⟩
  | case9 hops here name rest hstay hup _ _ content hentry hlast =>
    cases h
    obtain rfl := List.isEmpty_iff.mp hlast
    have hlink : store.isLink (here ++ [name]) = false := by simp [isLink, hentry]
    exact ⟨⟨0, .down ⟨by simpa using hstay, hup⟩ hlink .here⟩, by simp [hentry], hlink⟩
  | case12 here name rest hstay hup _ _ target hentry hops habsolute hbase ih =>
    obtain ⟨⟨cost, hrest⟩, hend⟩ := ih rfl h
    have hstart : targetStart here target = [] := if_pos habsolute
    exact ⟨Leads.of_target ⟨by simpa using hstay, hup⟩ hentry (fun _ => hbase) (hstart ▸ hrest), hend⟩
  | case14 here name rest hstay hup _ _ target hentry hops habsolute ih =>
    obtain ⟨⟨cost, hrest⟩, hend⟩ := ih hhere h
    have hstart : targetStart here target = here := if_neg habsolute
    rw [← hstart] at hrest
    exact ⟨Leads.of_target ⟨by simpa using hstay, hup⟩ hentry (absurd · habsolute) hrest, hend⟩
  | case4 | case5 | case6 | case7 | case10 | case11 | case13 => cases h

def TargetCost (store : Store) (place : List String) (cost : Nat) : Prop :=
  ∃ target mid, store.entry? place = some (.link target) ∧
    Leads store (targetStart place.dropLast target) (targetNames target) mid cost

theorem TargetCost.unique (h : TargetCost store place c) (h' : TargetCost store place c') :
    c = c' := by
  obtain ⟨target, mid, hentry, hleads⟩ := h
  obtain ⟨target', mid', hentry', hleads'⟩ := h'
  rw [hentry] at hentry'
  cases hentry'
  exact (hleads.unique hleads').2

theorem IsNullFree.targetNames (hnull : store.IsNullFree)
    (hentry : store.entry? (here ++ [name]) = some (.link target)) :
    ∀ part ∈ targetNames target, Path.holdsNull part = false := by
  intro part hpart
  have hmem := mem_entries_of_eq_some (by simp) hentry
  have htarget := hnull.targets _ hmem target rfl
  obtain ⟨piece, hpiece, rfl⟩ := List.mem_map.mp hpart
  simp only [Path.holdsNull, String.toList_ofList, List.contains_eq_mem, decide_eq_false_iff_not]
    at htarget ⊢
  intro hin
  exact htarget ((Text.infix_of_mem_splitOn hpiece).subset hin)

theorem linkAt?_of_not_isLink (h : store.isLink names = false) :
    store.linkAt? (.inside names) = none := by
  simp only [linkAt?]
  split
  · rename_i hentry
    simp [isLink, hentry] at h
  · rfl

theorem length_links_le {links : List (List String)} (hnodup : links.Nodup)
    (hlinks : ∀ place ∈ links, store.isLink place = true) :
    links.length ≤ store.entries.length := by
  rw [← List.length_map Prod.fst]
  refine (hnodup.subperm fun place hplace => ?_).length_le
  have hlink := hlinks place hplace
  have hne : place ≠ [] := by
    rintro rfl
    simp [isLink, entry?] at hlink
  unfold isLink at hlink
  split at hlink
  · rename_i target hentry
    exact List.mem_map.mpr ⟨_, mem_entries_of_eq_some hne hentry, rfl⟩
  · cases hlink

theorem TargetCost.isLink (h : TargetCost store place c) : store.isLink place = true := by
  obtain ⟨target, mid, hentry, -⟩ := h
  simp [Store.isLink, hentry]

/-- The links that are being replaced by their targets: different ones, each with at least `cost` links
on the way of its target. -/
structure Replacing (store : Store) (cost : Nat) (pending : List (List String)) : Prop where
  nodup : pending.Nodup
  cost_le : ∀ place ∈ pending, ∃ c, cost ≤ c ∧ TargetCost store place c

namespace Replacing

variable {pending : List (List String)}

theorem nil : Replacing store cost [] :=
  ⟨List.nodup_nil, by simp⟩

theorem mono (h : Replacing store cost pending) (hle : c ≤ cost) : Replacing store c pending := by
  refine ⟨h.nodup, fun place hmem => ?_⟩
  obtain ⟨c', hle', hcost⟩ := h.cost_le place hmem
  exact ⟨c', hle.trans hle', hcost⟩

/-- A link with fewer links on the way of its target is not one of those that are being replaced. -/
theorem not_mem (h : Replacing store cost pending) (hcost : TargetCost store place c)
    (hlt : c < cost) : place ∉ pending := by
  intro hmem
  obtain ⟨c', hle, hcost'⟩ := h.cost_le place hmem
  have heq := hcost.unique hcost'
  omega

theorem cons (h : Replacing store cost pending) (hcost : TargetCost store place c)
    (hlt : c < cost) : Replacing store c (place :: pending) := by
  refine ⟨List.nodup_cons.mpr ⟨h.not_mem hcost hlt, h.nodup⟩, ?_⟩
  exact List.forall_mem_cons.mpr ⟨⟨c, Nat.le_refl c, hcost⟩, (h.mono hlt.le).cost_le⟩

theorem length_le (h : Replacing store cost pending) : pending.length ≤ store.entries.length := by
  refine length_links_le h.nodup fun place hmem => ?_
  obtain ⟨c, -, hcost⟩ := h.cost_le place hmem
  exact hcost.isLink

end Replacing

/-- The search for the real path of a name that leads somewhere ends there.  The links that are being
replaced have as many links on the way of their targets as there are ahead, and they are not more than
the entries. -/
theorem realFrom_of_leads (hnull : store.IsNullFree) (h : Leads store here names found cost)
    (hnames : ∀ name ∈ names, Path.holdsNull name = false) {pending : List (List String)}
    (hpending : Replacing store cost pending)
    (hfuel : store.entries.length ≤ pending.length + fuel) :
    store.realFrom fuel (pending.map .inside) (.inside here) names = .ok (.inside found, true) := by
  induction h generalizing pending fuel with
  | here => rw [realFrom]
  | stay hname _ ih =>
    rw [realFrom, if_pos hname]
    exact ih (fun n hn => hnames n (List.mem_cons_of_mem _ hn)) hpending hfuel
  | up _ ih =>
    rw [realFrom, if_neg (by simp [staysPut]), if_pos rfl]
    exact ih (fun n hn => hnames n (List.mem_cons_of_mem _ hn)) hpending hfuel
  | @down here rest found name cost hname hlink _ ih =>
    obtain ⟨hown, hrest⟩ := List.forall_mem_cons.mp hnames
    have hplace : store.linkAt? ((Place.inside here).join [name]) = none :=
      linkAt?_of_not_isLink hlink
    rw [realFrom, if_neg (by simp [hname.1]), if_neg hname.2, if_neg (by simp [hown])]
    simp only [hplace]
    exact ih hrest hpending hfuel
  | @link here rest mid found name target c cost hname hentry hbase htarget _ ihtarget ihrest =>
    obtain ⟨hown, hrest⟩ := List.forall_mem_cons.mp hnames
    have hplace : store.linkAt? ((Place.inside here).join [name]) = some target := by
      simp [Place.join, Place.mapNames, linkAt?, hentry]
    have hcost : TargetCost store (here ++ [name]) c := ⟨target, mid, hentry, by simpa using htarget⟩
    have hahead : c < c + 1 + cost := by omega
    have hmore : Replacing store c ((here ++ [name]) :: pending) := hpending.cons hcost hahead
    have hlinks : pending.length + 1 ≤ store.entries.length := hmore.length_le
    obtain ⟨fuel, rfl⟩ := Nat.exists_eq_add_one.mpr (by omega : 0 < fuel)
    have hstart : (if isAbsolute target = true then store.rootPlace .root [] else .inside here) =
        .inside (targetStart here target) := by
      unfold targetStart
      split
      · rw [rootPlace, if_pos (hbase ‹_›)]
      · rfl
    have htarget' : store.realFrom fuel (((here ++ [name]) :: pending).map .inside)
        (.inside (targetStart here target)) (targetNames target) = .ok (.inside mid, true) := by
      refine ihtarget (hnull.targetNames hentry) hmore ?_
      rw [List.length_cons]
      omega
    have hcontains : (pending.map Place.inside).contains ((Place.inside here).join [name]) = false := by
      simpa [Place.join, Place.mapNames] using hpending.not_mem hcost hahead
    have hjoin : (Place.inside here).join [name] = .inside (here ++ [name]) := rfl
    rw [List.map_cons] at htarget'
    rw [realFrom, if_neg (by simp [hname.1]), if_neg hname.2, if_neg (by simp [hown])]
    simp only [hplace, hcontains, Bool.false_eq_true, if_false, hstart]
    rw [hjoin, htarget']
    exact ihrest hrest (hpending.mono (by omega)) hfuel

/-- The real path of a name that leads to an entry is the name of that entry. -/
theorem realPath_of_locate (htree : store.IsTree) (hnull : store.IsNullFree)
    (hnames : ∀ name ∈ names, Path.holdsNull name = false) (h : store.locate names = .ok found) :
    store.realPath names = .ok (.inside found) ∧ store.entry? found ≠ none ∧
      store.isLink found = false := by
  have hfollow : store.follow false linkLimit [] names = .ok (.entry found) := by
    unfold locate at h
    cases hlanding : store.follow false linkLimit [] names with
    | error cause => simp [hlanding, bind, Except.bind] at h
    | ok landing =>
      cases landing with
      | entry place =>
        rw [hlanding] at h
        cases h
        rfl
      | vacant directory name => simp [hlanding, bind, Except.bind, throw, throwThe] at h
  obtain ⟨⟨cost, hleads⟩, hentry, hlink⟩ := leads_of_follow htree rfl hfollow
  have hreal : store.realFrom store.entries.length [] (.inside []) names = .ok (.inside found, true) :=
    realFrom_of_leads hnull hleads hnames .nil (by simp)
  obtain ⟨entry, hsome⟩ := Option.ne_none_iff_exists'.mp hentry
  have hplain : plainNames found = found := by
    refine plainNames_eq_self fun name hname => ?_
    obtain ⟨hstay, hup⟩ := (htree.components hsome name hname).1
    exact ⟨by simp [hstay], hup⟩
  have hkept : beforeNull found = found := by
    refine beforeNull_eq_self fun name hname => ?_
    have hmem := mem_entries_of_eq_some (List.ne_nil_of_mem hname) hsome
    simp [hnull.names _ hmem name hname]
  refine ⟨?_, hentry, hlink⟩
  rw [realPath, hreal]
  simp only [ok_bind, pure_eq_ok, Place.mapNames, hplain, hkept]

end SourceCensus.Store
