import Mathlib.Data.List.TakeWhile
import SourceCensus.Text.Lines
import SourceCensus.Text.Search

/-! # Cutting source text into lines -/

namespace SourceCensus.Text

inductive Terminator where
  | feed
  | returnFeed
  deriving DecidableEq, Repr

def Terminator.text : Terminator → List Char
  | feed => ['\n']
  | returnFeed => ['\r', '\n']

/-- A line with what ends it. -/
structure EndedLine where
  line : List Char
  terminator : Terminator

namespace EndedLine

def text (ended : EndedLine) : List Char :=
  ended.line ++ ended.terminator.text

/-- The line holds no line feed, and has no carriage return that a line feed would take for its own. -/
def IsProper (ended : EndedLine) : Prop :=
  '\n' ∉ ended.line ∧ (ended.terminator = .feed → ended.line.getLast? ≠ some '\r')

end EndedLine

variable {line text : List Char}

section Shape

theorem ne_feed_of_mem (h : '\n' ∉ line) : ∀ c ∈ line, (c != '\n') = true := by
  intro c hc
  exact bne_iff_ne.mpr (ne_of_mem_of_not_mem hc h)

/-- A text has no line feed, or its first line feed ends its first line. -/
theorem induction_on_feeds {motive : List Char → Prop}
    (last : ∀ line, '\n' ∉ line → motive line)
    (feed : ∀ line rest, '\n' ∉ line → motive rest → motive (line ++ '\n' :: rest))
    (text : List Char) : motive text := by
  induction hn : text.length using Nat.strongRecOn generalizing text with
  | ind n ih =>
    by_cases hmem : '\n' ∈ text
    · obtain ⟨line, rest, rfl, hline⟩ := List.eq_append_cons_of_mem hmem
      refine feed line rest hline (ih rest.length ?_ rest rfl)
      rw [← hn, List.length_append, List.length_cons]
      omega
    · exact last text hmem

end Shape

section Cutting

theorem sourceLines_of_not_mem (hne : text ≠ []) (h : '\n' ∉ text) : sourceLines text = [text] := by
  have hdrop : text.dropWhile (· != '\n') = [] := List.dropWhile_eq_nil_iff.mpr (ne_feed_of_mem h)
  rw [sourceLines]
  split
  · simp [hne]
  · rename_i hcons
    rw [hdrop] at hcons
    cases hcons

theorem sourceLines_append (h : '\n' ∉ line) (rest : List Char) :
    sourceLines (line ++ '\n' :: rest) = dropReturn line :: sourceLines rest := by
  have hdrop : (line ++ '\n' :: rest).dropWhile (· != '\n') = '\n' :: rest := by
    rw [List.dropWhile_append_of_pos (ne_feed_of_mem h), List.dropWhile_cons_of_neg (by decide)]
  have htake : (line ++ '\n' :: rest).takeWhile (· != '\n') = line := by
    rw [List.takeWhile_append_of_pos (ne_feed_of_mem h), List.takeWhile_cons_of_neg (by decide),
      List.append_nil]
  rw [sourceLines]
  split
  · rename_i hnil
    rw [hdrop] at hnil
    cases hnil
  · rename_i hcons
    rw [hdrop] at hcons
    obtain ⟨-, rfl⟩ := List.cons.inj hcons
    rw [htake]

theorem sourceLines_eq_nil_iff : sourceLines text = [] ↔ text = [] := by
  induction text using induction_on_feeds with
  | last line h =>
    by_cases hne : line = []
    · simp [hne]
    · simp [sourceLines_of_not_mem hne h, hne]
  | feed line rest h _ => simp [sourceLines_append h]

theorem dropReturn_eq_self (h : line.getLast? ≠ some '\r') : dropReturn line = line :=
  if_neg h

theorem dropReturn_append_return (line : List Char) : dropReturn (line ++ ['\r']) = line := by
  simp [dropReturn]

theorem EndedLine.IsProper.sourceLines_append {ended : EndedLine} (h : ended.IsProper)
    (rest : List Char) : sourceLines (ended.text ++ rest) = ended.line :: sourceLines rest := by
  obtain ⟨line, terminator⟩ := ended
  obtain ⟨hline, hreturn⟩ := h
  cases terminator with
  | feed =>
    have htext : EndedLine.text ⟨line, .feed⟩ ++ rest = line ++ '\n' :: rest := by
      simp [EndedLine.text, Terminator.text]
    rw [htext, Text.sourceLines_append hline, dropReturn_eq_self (hreturn rfl)]
  | returnFeed =>
    have htext : EndedLine.text ⟨line, .returnFeed⟩ ++ rest = (line ++ ['\r']) ++ '\n' :: rest := by
      simp [EndedLine.text, Terminator.text]
    have hmem : '\n' ∉ line ++ ['\r'] := by simpa using hline
    rw [htext, Text.sourceLines_append hmem, dropReturn_append_return]

/-- Lines with what ends them, before any other text, are cut off one after the other. -/
theorem sourceLines_flatMap_append {lines : List EndedLine} (h : ∀ ended ∈ lines, ended.IsProper)
    (rest : List Char) :
    sourceLines (lines.flatMap (·.text) ++ rest) = lines.map (·.line) ++ sourceLines rest := by
  induction lines with
  | nil => rfl
  | cons ended lines ih =>
    obtain ⟨hended, hlines⟩ := List.forall_mem_cons.mp h
    rw [List.flatMap_cons, List.append_assoc, hended.sourceLines_append, ih hlines]
    rfl

end Cutting

section Joining

theorem unifyBreaks_of_not_mem (h : '\n' ∉ text) : unifyBreaks text = text := by
  fun_induction unifyBreaks text with
  | case1 rest => simp at h
  | case2 c rest _ ih => rw [ih fun hmem => h (List.mem_cons_of_mem _ hmem)]
  | case3 => rfl

theorem dropReturn_cons_cons (c d : Char) (line : List Char) :
    dropReturn (c :: d :: line) = c :: dropReturn (d :: line) := by
  simp only [dropReturn, List.getLast?_cons_cons, List.dropLast_cons_cons]
  split_ifs <;> rfl

/-- Leaving carriage returns out before line feeds is done line by line. -/
theorem unifyBreaks_append (h : '\n' ∉ line) (rest : List Char) :
    unifyBreaks (line ++ '\n' :: rest) = dropReturn line ++ '\n' :: unifyBreaks rest := by
  induction line with
  | nil => rfl
  | cons c line ih =>
    rw [List.mem_cons, not_or] at h
    cases line with
    | nil =>
      by_cases hc : c = '\r'
      · rw [hc]
        rfl
      · simp [unifyBreaks, dropReturn, hc]
    | cons d line =>
      have hd : d ≠ '\n' := fun heq => h.2 (heq ▸ List.mem_cons_self)
      have hmore := ih h.2
      rw [List.cons_append] at hmore ⊢
      rw [List.cons_append, dropReturn_cons_cons, List.cons_append, ← hmore]
      simp [unifyBreaks, hd]

theorem join_cons_of_ne_nil {separator piece : List Char} {pieces : List (List Char)}
    (h : pieces ≠ []) : join separator (piece :: pieces) = piece ++ separator ++ join separator pieces := by
  obtain ⟨second, pieces, rfl⟩ := List.exists_cons_of_ne_nil h
  rfl

/-- The lines of a text put together with line feeds, and with a last one if the text ends in one. -/
theorem join_sourceLines (text : List Char) :
    join ['\n'] (sourceLines text) ++ (if text.getLast? = some '\n' then ['\n'] else []) =
      unifyBreaks text := by
  induction text using induction_on_feeds with
  | last line h =>
    have hlast : line.getLast? ≠ some '\n' := fun hlast => h (List.mem_of_getLast? hlast)
    rw [if_neg hlast, List.append_nil, unifyBreaks_of_not_mem h]
    by_cases hne : line = []
    · rw [hne, sourceLines_nil, join_nil]
    · rw [sourceLines_of_not_mem hne h, join_singleton]
  | feed line rest h ih =>
    rw [sourceLines_append h, unifyBreaks_append h, ← ih]
    by_cases hne : rest = []
    · simp [hne]
    · have hlast : (line ++ '\n' :: rest).getLast? = rest.getLast? := by
        rw [List.getLast?_append, List.getLast?_cons_of_ne_nil hne, List.getLast?_eq_some_getLast hne,
          Option.some_or]
      rw [join_cons_of_ne_nil (mt sourceLines_eq_nil_iff.mp hne), hlast]
      simp

end Joining

/-- Cutting a text into lines undoes the ending of lines, in either way and in any mixture.  Lines, each
with what ends it, and a last line that nothing ends are found again, if no line holds a line feed and
none that a line feed ends has a carriage return at its end.  And of every text, the lines put
together with line feeds, and with a last one if the text ends in one, are the text in which each
carriage return with a line feed after it is left out. -/
theorem sourceLines_undo_endings :
    (∀ (lines : List EndedLine) (last? : Option (List Char)), (∀ ended ∈ lines, ended.IsProper) →
      (∀ last ∈ last?, last ≠ [] ∧ '\n' ∉ last) →
      sourceLines (lines.flatMap (·.text) ++ last?.getD []) = lines.map (·.line) ++ last?.toList) ∧
    ∀ text : List Char,
      join ['\n'] (sourceLines text) ++ (if text.getLast? = some '\n' then ['\n'] else []) =
        unifyBreaks text := by
  refine ⟨fun lines last? hlines hlast => ?_, join_sourceLines⟩
  rw [sourceLines_flatMap_append hlines]
  cases last? with
  | none => rw [Option.getD_none, sourceLines_nil, Option.toList_none]
  | some last =>
    obtain ⟨hne, hfeed⟩ := hlast last rfl
    rw [Option.getD_some, sourceLines_of_not_mem hne hfeed, Option.toList_some]

/-- Lines with both endings: one that itself ends in a carriage return, empty ones, and one that starts
with a carriage return. -/
def mixedLines : List EndedLine :=
  [⟨['a', '\r'], .returnFeed⟩, ⟨[], .feed⟩, ⟨['\r', 'b'], .feed⟩, ⟨[], .returnFeed⟩]

/-- The mixed lines are found again before a last line that is a carriage return alone. -/
theorem mixedLines_found :
    (∀ ended ∈ mixedLines, ended.IsProper) ∧
    sourceLines (['a', '\r', '\r', '\n', '\n', '\r', 'b', '\n', '\r', '\n'] ++ ['\r']) =
      [['a', '\r'], [], ['\r', 'b'], [], ['\r']] := by
  have hproper : ∀ ended ∈ mixedLines, ended.IsProper := by
    unfold EndedLine.IsProper
    decide
  exact ⟨hproper, sourceLines_undo_endings.1 mixedLines (some ['\r']) hproper (by decide)⟩

end SourceCensus.Text
