import SourceCensus.Ignore.Rules
import SourceCensus.Proofs.Ignore.Below
import SourceCensus.Proofs.Text.Blanks

/-! # Moving rules to the root -/

namespace SourceCensus.Ignore

/-- The pieces of a pattern from the root on: a slash at the start is left out, and a pattern without
an inner slash starts in any directory. -/
def rootedPieces (pieces : List (List Char)) : List (List Char) :=
  match pieces with
  | [] :: rest => rest
  | [piece] => if piece = ['*', '*'] then pieces else [['*', '*'], piece]
  | [piece, []] => if piece = ['*', '*'] then pieces else [['*', '*'], piece, []]
  | _ => pieces

def segmentsOf (pieces : List (List Char)) : List Segment :=
  let closed := match pieces.getLast? with
    | some [] => pieces.dropLast ++ [['*', '*']]
    | _ => pieces
  collapse (closed.map Segment.ofText)

def Names (piece : List Char) : Prop :=
  piece ≠ [] ∧ piece ≠ ['*', '*']

section Segments

variable {names pieces : List (List Char)} {name text : List Char}

theorem segments_eq (text : List Char) : segments text =
    (segmentsOf (rootedPieces (Text.splitOn '/' text)),
      decide ((Text.splitOn '/' text).getLast? = some [])) := rfl

theorem collapse_glob (text : List Char) (list : List Segment) :
    collapse (.glob text :: list) = .glob text :: collapse list := by
  simp [collapse]

theorem segmentsOf_cons (hname : name ≠ ['*', '*']) (hpieces : pieces ≠ []) :
    segmentsOf (name :: pieces) = .glob name :: segmentsOf pieces := by
  simp only [segmentsOf, List.getLast?_cons_of_ne_nil hpieces]
  split
  · simp [List.dropLast_cons_of_ne_nil hpieces, Segment.ofText, hname, collapse_glob]
  · simp [Segment.ofText, hname, collapse_glob]

theorem segmentsOf_append (hnames : ∀ name ∈ names, name ≠ ['*', '*']) (hpieces : pieces ≠ []) :
    segmentsOf (names ++ pieces) = names.map .glob ++ segmentsOf pieces := by
  induction names with
  | nil => rfl
  | cons name names ih =>
    rw [List.cons_append, segmentsOf_cons (hnames name (by simp)) (by simp [hpieces]),
      ih fun n hn => hnames n (by simp [hn])]
    rfl

theorem segmentsOf_directories (hname : Names name) :
    segmentsOf (['*', '*'] :: name :: pieces) = .directories :: segmentsOf (name :: pieces) := by
  obtain ⟨hfilled, hname⟩ := hname
  have hdirectories : ∀ list : List Segment,
      collapse (.directories :: .glob name :: list) = .directories :: .glob name :: collapse list := by
    intro list
    rw [collapse, collapse_glob]
    simp
  cases pieces with
  | nil => simp [segmentsOf, hfilled, Segment.ofText, hname, hdirectories, collapse_glob]
  | cons piece pieces =>
    simp only [segmentsOf, List.getLast?_cons_cons]
    split <;> simp [Segment.ofText, hname, hdirectories, collapse_glob]

theorem collapse_cases (text : List Char) {list : List Segment} (h : .glob text ∈ list) :
    ∃ text rest, collapse list = .glob text :: rest ∨
      collapse list = .directories :: .glob text :: rest := by
  fun_induction collapse list with
  | case1 rest ih => exact ih (by simpa using h)
  | case2 segment rest hne ih =>
    cases segment with
    | glob text => exact ⟨text, _, .inl rfl⟩
    | directories =>
      cases rest with
      | nil => simp at h
      | cons next rest =>
        cases next with
        | glob text => exact ⟨text, _, .inr (by rw [collapse_glob])⟩
        | directories => exact absurd rfl (hne rest rfl)
  | case3 => simp at h

theorem segmentsOf_cases (h : ∃ piece ∈ pieces, Names piece) :
    ∃ text rest, segmentsOf pieces = .glob text :: rest ∨
      segmentsOf pieces = .directories :: .glob text :: rest := by
  obtain ⟨piece, hmem, hfilled, hname⟩ := h
  have hglob : Segment.glob piece = Segment.ofText piece := by simp [Segment.ofText, hname]
  unfold segmentsOf
  refine collapse_cases piece ?_
  rw [hglob]
  apply List.mem_map_of_mem
  split
  · rename_i hlast
    obtain ⟨init, rfl⟩ := List.getLast?_eq_some_iff.mp hlast
    rw [List.dropLast_concat]
    rw [List.mem_append, List.mem_singleton] at hmem
    exact List.mem_append_left _ (hmem.resolve_right hfilled)
  · exact hmem

theorem mem_rootedPieces (hmem : name ∈ pieces) (hfilled : name ≠ []) : name ∈ rootedPieces pieces := by
  unfold rootedPieces
  split <;> grind

end Segments

section Patterns

variable {names : List (List Char)} {text rest : List Char}

theorem IsPlain.ne_doubleStar {name : List Char} (h : IsPlain name) : name ≠ ['*', '*'] := by
  rintro rfl
  exact h.literal '*' (by simp) (by simp)

theorem IsPlainPath.splitOn_join (h : IsPlainPath names) :
    Text.splitOn '/' (Text.join ['/'] names) = names :=
  Text.splitOn_join h.filled fun name hname hslash =>
    (h.plain name hname).literal '/' hslash (by simp)

theorem IsPlainPath.join_ne_nil (h : IsPlainPath names) : Text.join ['/'] names ≠ [] := by
  intro hempty
  have hsplit := h.splitOn_join
  rw [hempty, Text.splitOn_nil] at hsplit
  exact (h.plain [] (by simp [← hsplit])).filled rfl

/-- The segments of a pattern that starts with the path of a directory. -/
theorem segments_below (hnames : IsPlainPath names) :
    segments ('/' :: (Text.join ['/'] names ++ '/' :: rest)) =
      (names.map .glob ++ segmentsOf (Text.splitOn '/' rest),
        decide ((Text.splitOn '/' rest).getLast? = some [])) := by
  have hsplit : Text.splitOn '/' ('/' :: (Text.join ['/'] names ++ '/' :: rest)) =
      [] :: (names ++ Text.splitOn '/' rest) := by
    rw [Text.splitOn_cons_self, Text.splitOn_append, hnames.splitOn_join]
  have hrest := Text.splitOn_ne_nil '/' rest
  have hlast : ([] :: (names ++ Text.splitOn '/' rest)).getLast? =
      (Text.splitOn '/' rest).getLast? := by
    rw [← List.cons_append, List.getLast?_append_of_ne_nil _ hrest]
  rw [segments_eq, hsplit, hlast, rootedPieces,
    segmentsOf_append (fun name hname => (hnames.plain name hname).ne_doubleStar) hrest]

theorem dropSlashes_append (text : List Char) :
    ∃ count, text = dropSlashes text ++ List.replicate count '/' := by
  have hslashes : (text.reverse.takeWhile (· == '/')).reverse =
      List.replicate (text.reverse.takeWhile (· == '/')).length '/' :=
    List.eq_replicate_iff.mpr ⟨by simp, fun c hc => by
      simpa using List.mem_takeWhile_imp (List.mem_reverse.mp hc)⟩
  refine ⟨(text.reverse.takeWhile (· == '/')).length, ?_⟩
  rw [← hslashes, dropSlashes, ← List.reverse_append, List.takeWhile_append_dropWhile,
    List.reverse_reverse]

theorem rootedPieces_of_inner_slash (hhead : text.head? ≠ some '/')
    (hinner : '/' ∈ dropSlashes text) :
    rootedPieces (Text.splitOn '/' text) = Text.splitOn '/' text := by
  have hjoin := Text.join_splitOn '/' text
  have hfree : ∀ piece ∈ Text.splitOn '/' text, '/' ∉ dropSlashes piece := fun piece hpiece hslash =>
    Text.not_mem_of_mem_splitOn hpiece (by
      obtain ⟨count, heq⟩ := dropSlashes_append piece
      rw [heq]
      exact List.mem_append_left _ hslash)
  unfold rootedPieces
  split
  · rename_i rest heq
    rw [heq] at hjoin
    cases rest with
    | nil =>
      rw [← hjoin] at hinner
      simp [dropSlashes] at hinner
    | cons piece rest =>
      rw [← hjoin, Text.join_cons_cons] at hhead
      simp at hhead
  · rename_i piece _ heq
    rw [heq] at hjoin hfree
    exact absurd hinner (hjoin ▸ hfree piece (by simp))
  · rename_i piece _ heq
    rw [heq] at hjoin hfree
    have hdrop : dropSlashes text = dropSlashes piece := by
      rw [← hjoin]
      simp [Text.join_cons_cons, dropSlashes]
    exact absurd hinner (hdrop ▸ hfree piece (by simp))
  · rfl

theorem rootedPieces_name {name : List Char} (hname : Names name) :
    rootedPieces [name] = [['*', '*'], name] ∧
      rootedPieces [name, []] = [['*', '*'], name, []] ∧
        ∀ pieces, rootedPieces (name :: [] :: [] :: pieces) = name :: [] :: [] :: pieces := by
  obtain ⟨hfilled, hstars⟩ := hname
  cases name with
  | nil => exact absurd rfl hfilled
  | cons c name => simp [rootedPieces, hstars]

/-- A name that is moved may stand at any depth below the directory.  With more than one slash behind
it, it matches nothing in either place. -/
theorem ofText_name_agree (hnames : IsPlainPath names)
    {name : List Char} (hname : Names name) {count : Nat}
    (hpieces : Text.splitOn '/' text = name :: List.replicate count []) :
    Agree (Pattern.IsBelow (Text.join ['/'] names)) (Pattern.ofText text)
      (Pattern.ofText ('/' :: (Text.join ['/'] names ++ '/' :: (['*', '*'] ++ '/' :: text)))) := by
  obtain ⟨halone, hdirectory, hdoubled⟩ := rootedPieces_name hname
  have hsegments := segments_eq text
  have hmoved : segments ('/' :: (Text.join ['/'] names ++ '/' :: (['*', '*'] ++ '/' :: text))) =
      (names.map .glob ++ segmentsOf (['*', '*'] :: Text.splitOn '/' text),
        decide ((Text.splitOn '/' text).getLast? = some [])) := by
    rw [segments_below hnames, Text.splitOn_append, Text.splitOn_of_not_mem (by simp),
      List.singleton_append, List.getLast?_cons_of_ne_nil (Text.splitOn_ne_nil _ _)]
  rw [hpieces] at hsegments hmoved
  match count with
  | 0 =>
    rw [List.replicate_zero, halone] at hsegments
    exact ofText_agree hnames hsegments hmoved (segmentsOf_cases ⟨name, by simp, hname⟩)
  | 1 =>
    rw [List.replicate_one, hdirectory] at hsegments
    exact ofText_agree hnames hsegments hmoved (segmentsOf_cases ⟨name, by simp, hname⟩)
  | count + 2 =>
    rw [List.replicate_succ, List.replicate_succ] at hsegments hmoved
    rw [hdoubled, segmentsOf_cons hname.2 (by simp), segmentsOf_cons (by simp) (by simp)] at hsegments
    rw [segmentsOf_directories hname, segmentsOf_cons hname.2 (by simp),
      segmentsOf_cons (by simp) (by simp)] at hmoved
    refine ofText_agree_doubled hnames hsegments ?_ hmoved
    cases count with
    | zero => exact .inl rfl
    | succ count => exact .inr ⟨_, segmentsOf_cons (by simp) (by simp [List.replicate_succ])⟩

/-- A pattern that names something, and the same pattern moved to the root, below the directory that
it was moved from. -/
theorem ofText_rebasePattern (hnames : IsPlainPath names)
    (hnamed : ∃ piece ∈ Text.splitOn '/' text, Names piece) :
    Agree (Pattern.IsBelow (Text.join ['/'] names)) (Pattern.ofText text)
      (Pattern.ofText (rebasePattern (Text.join ['/'] names) text)) := by
  have hrooted : ∃ piece ∈ rootedPieces (Text.splitOn '/' text), Names piece := by
    obtain ⟨piece, hmem, hpiece⟩ := hnamed
    exact ⟨piece, mem_rootedPieces hmem hpiece.1, hpiece⟩
  have hfirst := segmentsOf_cases hrooted
  unfold rebasePattern
  split_ifs with hhead hinner
  · obtain ⟨rest, rfl⟩ := List.head?_eq_some_iff.mp hhead
    refine ofText_agree hnames (segments_eq _) ?_ hfirst
    rw [List.cons_append, segments_below hnames, Text.splitOn_cons_self,
      List.getLast?_cons_of_ne_nil (Text.splitOn_ne_nil _ _)]
    rfl
  · refine ofText_agree hnames (segments_eq _) ?_ hfirst
    rw [List.cons_append, segments_below hnames,
      rootedPieces_of_inner_slash hhead (by simpa using hinner)]
  · obtain ⟨count, htext⟩ := dropSlashes_append text
    have hslash : '/' ∉ dropSlashes text := by simpa using hinner
    have hpieces := Text.splitOn_append_replicate hslash count
    rw [← htext] at hpieces
    have hname : Names (dropSlashes text) := by
      rw [hpieces] at hnamed
      obtain ⟨piece, hmem, hpiece⟩ := hnamed
      rw [List.mem_cons] at hmem
      rcases hmem with rfl | hmem
      · exact hpiece
      · exact absurd (List.eq_of_mem_replicate hmem) hpiece.1
    simpa using ofText_name_agree hnames hname hpieces

end Patterns

section Trimming

variable {s line base : List Char}

theorem exists_blanks (s : List Char) :
    ∃ blanks, s = trimLine s ++ blanks ∧ ∀ c ∈ blanks, Text.isBlank c = true := by
  unfold trimLine
  split
  · exact ⟨[], by simp, by simp⟩
  · obtain ⟨blanks, hs, hblanks⟩ := Text.exists_trimEnd_append s
    exact ⟨blanks, hs.symm, hblanks⟩

theorem head?_trimLine (h : trimLine s ≠ []) : (trimLine s).head? = s.head? := by
  obtain ⟨blanks, hs, -⟩ := exists_blanks s
  conv_rhs => rw [hs]
  rw [List.head?_append_of_ne_nil _ h]

/-- Trimming does not see what stands before a text of which something is left. -/
theorem trimLine_append (front : List Char) (h : trimLine s ≠ []) :
    trimLine (front ++ s) = front ++ trimLine s := by
  by_cases hkept : ['\\', ' '] <:+ s
  · have hfront := hkept.trans (List.suffix_append front s)
    simp [trimLine, List.isSuffixOf_iff_suffix, hkept, hfront]
  · have htrim : Text.trimEnd s ≠ [] := by
      simpa [trimLine, List.isSuffixOf_iff_suffix, hkept] using h
    have hfront : ¬ ['\\', ' '] <:+ front ++ s := by
      intro hsuffix
      rcases List.suffix_or_suffix_of_suffix hsuffix (List.suffix_append front s) with hs | hs
      · exact hkept hs
      · rcases List.suffix_cons_iff.mp hs with rfl | hs
        · exact hkept List.suffix_rfl
        · rcases List.suffix_cons_iff.mp hs with rfl | hs
          · exact htrim (by decide)
          · rw [List.suffix_nil.mp hs] at htrim
            exact htrim rfl
    simp [trimLine, List.isSuffixOf_iff_suffix, hkept, hfront, Text.trimEnd_append front htrim]

theorem trimLine_cons {c : Char} (hblank : Text.isBlank c = false) (hc : c ≠ '\\') (s : List Char) :
    trimLine (c :: s) = c :: trimLine s := by
  have hkept : ['\\', ' '] <:+ c :: s ↔ ['\\', ' '] <:+ s := by
    rw [List.suffix_cons_iff, List.cons_eq_cons]
    exact or_iff_right fun h => hc h.1.symm
  simp only [trimLine, List.isSuffixOf_iff_suffix, hkept, Text.trimEnd_cons hblank]
  split_ifs <;> rfl

theorem trimLine_of_isBlankText (h : Text.isBlankText s = true) : trimLine s = [] := by
  have hblanks : ∀ c ∈ s, Text.isBlank c = true := List.all_eq_true.mp h
  have hkept : ¬ ['\\', ' '] <:+ s := fun hsuffix =>
    absurd (hblanks '\\' (hsuffix.subset (by simp))) (by decide)
  have hdrop : s.reverse.dropWhile Text.isBlank = [] :=
    List.dropWhile_eq_nil_iff.mpr fun d hd => hblanks d (List.mem_reverse.mp hd)
  simp [trimLine, List.isSuffixOf_iff_suffix, hkept, Text.trimEnd, hdrop]

theorem dropSlashes_eq_self (h : s.getLast? ≠ some '/') : dropSlashes s = s := by
  rcases List.eq_nil_or_concat' s with rfl | ⟨init, c, rfl⟩
  · rfl
  · have hc : c ≠ '/' := by simpa using h
    simp [dropSlashes, hc]

theorem slash_mem_trimLine (s : List Char) : '/' ∈ trimLine s ↔ '/' ∈ s := by
  obtain ⟨blanks, hs, hblanks⟩ := exists_blanks s
  have hfree : '/' ∉ blanks := fun hmem => absurd (hblanks _ hmem) (by decide)
  conv_rhs => rw [hs]
  simp [hfree]

theorem dropSlashes_of_trimmed (h : trimLine s ≠ s) : dropSlashes s = s := by
  obtain ⟨blanks, hs, hblanks⟩ := exists_blanks s
  have hne : blanks ≠ [] := by
    rintro rfl
    exact h (by simpa using hs.symm)
  have hlast : (trimLine s ++ blanks).getLast? ≠ some '/' := by
    rw [List.getLast?_append_of_ne_nil _ hne]
    exact fun hslash => absurd (hblanks _ (List.mem_of_getLast? hslash)) (by decide)
  rw [← hs] at hlast
  exact dropSlashes_eq_self hlast

/-- Trimming leaves an inner slash where there is one, and does not make one. -/
theorem contains_dropSlashes_trimLine
    (hending : (trimLine s).getLast? = some '/' → '/' ∉ dropSlashes (trimLine s) → trimLine s = s) :
    (dropSlashes (trimLine s)).contains '/' = (dropSlashes s).contains '/' := by
  by_cases htrim : trimLine s = s
  · rw [htrim]
  · rw [dropSlashes_of_trimmed htrim, Bool.eq_iff_iff, List.contains_iff_mem, List.contains_iff_mem,
      ← slash_mem_trimLine s]
    by_cases hlast : (trimLine s).getLast? = some '/'
    · have hinner : '/' ∈ dropSlashes (trimLine s) := not_imp_comm.mp (hending hlast) htrim
      exact iff_of_true hinner (List.mem_of_getLast? hlast)
    · rw [dropSlashes_eq_self hlast]

theorem trimLine_rebasePattern (h : trimLine s ≠ [])
    (hending : (trimLine s).getLast? = some '/' → '/' ∉ dropSlashes (trimLine s) → trimLine s = s) :
    trimLine (rebasePattern base s) = rebasePattern base (trimLine s) := by
  unfold rebasePattern
  rw [head?_trimLine h, contains_dropSlashes_trimLine hending]
  split_ifs
  · exact trimLine_append ('/' :: base) h
  · simpa using trimLine_append ('/' :: base ++ ['/']) h
  · simpa using trimLine_append ('/' :: base ++ ['/', '*', '*', '/']) h

end Trimming

def anchored (pattern : List Char) : List Char :=
  if pattern.head? = some '/' then pattern
  else if (dropSlashes pattern).contains '/' then '/' :: pattern
  else ['/', '*', '*', '/'] ++ pattern

theorem rebasePattern_eq (base pattern : List Char) :
    rebasePattern base pattern = '/' :: (base ++ anchored pattern) := by
  unfold rebasePattern anchored
  split_ifs <;> simp

/-- A text without the sign of negation at its start. -/
def unsigned : List Char → List Char
  | '!' :: rest => rest
  | text => text

/-- What a line must be like for its pattern to keep its meaning where it is moved. -/
structure Movable (line : List Char) : Prop where
  /-- No blanks stand before a comment. -/
  comment : (Text.trimStart line).head? = some '#' → line.head? = some '#'
  /-- No blanks stand after a slash at the end that is the only one. -/
  ending : (trimLine line).getLast? = some '/' →
    '/' ∉ dropSlashes (unsigned (trimLine line)) → trimLine line = line
  /-- A pattern names something. -/
  named : isIdle line = false →
    ∃ piece ∈ Text.splitOn '/' (unsigned (trimLine line)), Names piece

/-- What a line stands for at the root, against what it stands for in the directory `base`. -/
inductive RuleMoved (base : List Char) :
    Except RuleFault (Option Rule) → Except RuleFault (Option Rule) → Prop
  | idle : RuleMoved base (.ok none) (.ok none)
  | rule {rule moved : Rule} (sign : moved.negated = rule.negated)
      (below : Pattern.IsBelow base rule.pattern moved.pattern) :
      RuleMoved base (.ok (some rule)) (.ok (some moved))
  | invalid (line moved : List Char) :
      RuleMoved base (.error (.invalidLine line)) (.error (.invalidLine moved))
  | reversed : RuleMoved base (.error .reversedRange) (.error .reversedRange)

/-- What a line stands for when its pattern is known. -/
def ruleOf (line : List Char) (negated : Bool) :
    Except PatternFlaw Pattern → Except RuleFault (Option Rule)
  | .ok pattern => .ok (some ⟨negated, pattern⟩)
  | .error .unclosed => .ok none
  | .error .invalid => .error (.invalidLine line)
  | .error .reversedRange => .error .reversedRange

section Lines

variable {line base : List Char} {names : List (List Char)}

theorem ofLine?_of_negated {body : List Char} (h : trimLine line = '!' :: body) :
    Rule.ofLine? line = ruleOf line true (Pattern.ofText body) := by
  simp only [Rule.ofLine?, h]
  rfl

theorem ofLine?_of_plain {c : Char} {rest : List Char} (h : trimLine line = c :: rest)
    (hcomment : c ≠ '#') (hsign : c ≠ '!') (hslash : c :: rest ≠ ['/']) :
    Rule.ofLine? line = ruleOf line false (Pattern.ofText (c :: rest)) := by
  have hrule : ((c :: rest).isEmpty || decide ((c :: rest).head? = some '#') ||
      decide (c :: rest = ['/'])) = false := by
    simp [hcomment, hslash]
  simp only [Rule.ofLine?, h, hrule, Bool.false_eq_true, if_false]
  simp only [List.cons.injEq, hsign, false_and, imp_self, implies_true]
  rfl

theorem RuleMoved.of_agree {a b : Except PatternFlaw Pattern} (moved : List Char) (negated : Bool)
    (h : Agree (Pattern.IsBelow base) a b) :
    RuleMoved base (ruleOf line negated a) (ruleOf moved negated b) := by
  cases h with
  | error flaw =>
    cases flaw with
    | invalid => exact .invalid line moved
    | unclosed => exact .idle
    | reversedRange => exact .reversed
  | ok h => exact .rule rfl h

/-- A line that is blank or a comment is no rule. -/
theorem ofLine?_of_isIdle (hline : Movable line) (hidle : isIdle line = true) :
    Rule.ofLine? line = .ok none := by
  simp only [isIdle, Bool.or_eq_true, beq_iff_eq] at hidle
  rcases hidle with hblank | hcomment
  · simp [Rule.ofLine?, trimLine_of_isBlankText hblank]
  · obtain ⟨rest, rfl⟩ := List.head?_eq_some_iff.mp (hline.comment hcomment)
    simp [Rule.ofLine?, trimLine_cons (c := '#') rfl (by decide)]

theorem rebase_of_negated (hbase : base ≠ []) {pattern : List Char}
    (hidle : isIdle ('!' :: pattern) = false) :
    rebase base ('!' :: pattern) = '!' :: rebasePattern base pattern := by
  simp [rebase, hbase, hidle]

theorem rebase_of_plain (hbase : base ≠ []) (hidle : isIdle line = false)
    (hsign : line.head? ≠ some '!') : rebase base line = rebasePattern base line := by
  have hempty : (base.isEmpty || isIdle line) = false := by simp [hbase, hidle]
  simp only [rebase, hempty, Bool.false_eq_true, if_false]
  split
  · simp at hsign
  · rfl

theorem ruleMoved_of_negated (hnames : IsPlainPath names) {pattern : List Char} (hline : Movable ('!' :: pattern))
    (hidle : isIdle ('!' :: pattern) = false) :
    RuleMoved (Text.join ['/'] names) (Rule.ofLine? ('!' :: pattern))
      (Rule.ofLine? (rebase (Text.join ['/'] names) ('!' :: pattern))) := by
  have htrim := trimLine_cons (c := '!') rfl (by decide)
  have hnamed := hline.named hidle
  rw [htrim] at hnamed
  have hfilled : trimLine pattern ≠ [] := by
    intro hempty
    simp [unsigned, hempty, Names] at hnamed
  have hending := hline.ending
  rw [htrim, List.getLast?_cons_of_ne_nil hfilled, List.cons_inj_right] at hending
  rw [rebase_of_negated hnames.join_ne_nil hidle, ofLine?_of_negated (htrim pattern),
    ofLine?_of_negated (htrim _), trimLine_rebasePattern hfilled hending]
  exact .of_agree _ true (ofText_rebasePattern hnames hnamed)

theorem ruleMoved_of_plain (hnames : IsPlainPath names) (hline : Movable line)
    (hidle : isIdle line = false) (hsign : line.head? ≠ some '!') :
    RuleMoved (Text.join ['/'] names) (Rule.ofLine? line)
      (Rule.ofLine? (rebase (Text.join ['/'] names) line)) := by
  have hnamed := hline.named hidle
  have hfilled : trimLine line ≠ [] := by
    intro hempty
    simp [unsigned, hempty, Names] at hnamed
  obtain ⟨c, rest, htrim⟩ := List.exists_cons_of_ne_nil hfilled
  have hhead : line.head? = some c := by rw [← head?_trimLine hfilled, htrim]; rfl
  have hc : c ≠ '!' := by simpa [hhead] using hsign
  have hcomment : c ≠ '#' := by
    rintro rfl
    obtain ⟨more, rfl⟩ := List.head?_eq_some_iff.mp hhead
    simp [isIdle, Text.trimStart_cons_of_not_isBlank (c := '#') rfl] at hidle
  have hunsigned : unsigned (trimLine line) = trimLine line := by simp [htrim, unsigned, hc]
  have hending := hline.ending
  rw [hunsigned] at hending hnamed
  rw [htrim] at hnamed
  have hslash : c :: rest ≠ ['/'] := by
    intro heq
    rw [heq] at hnamed
    simp [Names, Text.splitOn] at hnamed
  obtain ⟨more, hmore, hmoved⟩ : ∃ more, more ≠ [] ∧
      rebasePattern (Text.join ['/'] names) (c :: rest) = '/' :: more :=
    ⟨_, List.append_ne_nil_of_left_ne_nil hnames.join_ne_nil _, rebasePattern_eq _ _⟩
  have htrimMoved : trimLine (rebasePattern (Text.join ['/'] names) line) = '/' :: more := by
    rw [trimLine_rebasePattern hfilled hending, htrim, hmoved]
  rw [rebase_of_plain hnames.join_ne_nil hidle hsign, ofLine?_of_plain htrim hcomment hc hslash,
    ofLine?_of_plain htrimMoved (by decide) (by decide) (by simp [hmore]), ← hmoved]
  exact .of_agree _ false (ofText_rebasePattern hnames hnamed)

/-- A line of the ignore file in a directory whose components are plain, moved to the root, stands for
a rule there exactly when it stands for one in the directory, with the same sign, and matches the
paths of entries below the directory whose rest the line matches, and no others. -/
theorem rebase_moves_rule (hnames : IsPlainPath names)
    (hline : Movable line) :
    RuleMoved (Text.join ['/'] names) (Rule.ofLine? line)
      (Rule.ofLine? (rebase (Text.join ['/'] names) line)) := by
  cases hidle : isIdle line with
  | true =>
    have hkept : rebase (Text.join ['/'] names) line = line := by simp [rebase, hidle]
    rw [hkept, ofLine?_of_isIdle hline hidle]
    exact .idle
  | false =>
    by_cases hsign : line.head? = some '!'
    · obtain ⟨pattern, rfl⟩ := List.head?_eq_some_iff.mp hsign
      exact ruleMoved_of_negated hnames hline hidle
    · exact ruleMoved_of_plain hnames hline hidle hsign

end Lines

/-- A negated pattern with a directory, a question mark, a star, a bracket and blanks behind it. -/
theorem movable_sources : Movable "!b?/*.[ch] ".toList := by
  constructor
  · decide
  · decide
  · exact fun _ => ⟨"b?".toList, by decide, by decide, by decide⟩

theorem ofLine?_sources : Rule.ofLine? "!b?/*.[ch] ".toList =
    .ok (some ⟨true, .sequence [.exact 'b', .one, .slash, .many 0, .exact '.',
      .oneOf ⟨false, [('c', 'c'), ('h', 'h')]⟩, .finish]⟩) := by
  cbv

/-- In `lib/gen` the line keeps the file `bx/y.c` and what else it matches there. -/
theorem sources_moved :
    IsPlainPath ["lib".toList, "gen".toList] ∧ Movable "!b?/*.[ch] ".toList ∧
    ∃ moved, Rule.ofLine? (rebase "lib/gen".toList "!b?/*.[ch] ".toList) = .ok (some moved) ∧
      moved.negated = true ∧ (moved.pattern.matchPath "lib/gen/bx/y.c".toList).isSome := by
  have hplain : IsPlainPath ["lib".toList, "gen".toList] := by
    refine ⟨by simp, ?_⟩
    simp only [List.forall_mem_cons]
    exact ⟨⟨by simp, by simp⟩, ⟨by simp, by simp⟩, by simp⟩
  refine ⟨hplain, movable_sources, ?_⟩
  have hmoved := rebase_moves_rule hplain movable_sources
  have hbase : Text.join ['/'] ["lib".toList, "gen".toList] = "lib/gen".toList := by decide
  rw [ofLine?_sources, hbase] at hmoved
  generalize Rule.ofLine? (rebase "lib/gen".toList "!b?/*.[ch] ".toList) = outcome at hmoved ⊢
  cases hmoved with
  | rule sign below =>
    refine ⟨_, rfl, sign, ?_⟩
    refine (below "lib/gen/bx/y.c".toList ?_).mpr ⟨"bx/y.c".toList, by decide, by decide⟩
    exact ⟨["lib".toList, "gen".toList, "bx".toList, "y.c".toList], false, by simp, by simp, by decide⟩

/-- Not every directory can be moved from: a bracket in its name is read as a set of characters, so
that the rule of one directory takes effect in others. -/
theorem not_every_directory_moves :
    ¬ ∀ (names : List (List Char)) (line : List Char), names ≠ [] →
      (∀ name ∈ names, name ≠ [] ∧ '/' ∉ name) →
      RuleMoved (Text.join ['/'] names) (Rule.ofLine? line)
        (Rule.ofLine? (rebase (Text.join ['/'] names) line)) := by
  intro hall
  have hmoved := hall ["[ab]".toList] "x.log".toList (by simp) (by simp)
  have hrule : Rule.ofLine? (rebase (Text.join ['/'] ["[ab]".toList]) "x.log".toList) =
      .ok (some ⟨false, .sequence [.oneOf ⟨false, [('a', 'a'), ('b', 'b')]⟩, .between, .slash,
        .exact 'x', .exact '.', .exact 'l', .exact 'o', .exact 'g', .finish]⟩) := by
    cbv
  rw [hrule] at hmoved
  generalize Rule.ofLine? "x.log".toList = outcome at hmoved
  cases hmoved with
  | rule sign below =>
    have hpath : IsEntryPath "a/x.log".toList :=
      ⟨["a".toList, "x.log".toList], false, by simp, by simp, by decide⟩
    obtain ⟨rest, heq, -⟩ := (below "a/x.log".toList hpath).mp (by decide)
    simp [Text.join] at heq

end SourceCensus.Ignore
