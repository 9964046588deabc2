import SourceCensus.Language.Detect
import SourceCensus.Proofs.Text.Blanks

/-! # Interpreter lines -/

namespace SourceCensus

theorem Text.afterLast_append {c : Char} {after : List Char} (before : List Char) (h : c ∉ after) :
    Text.afterLast c (before ++ c :: after) = after := by
  have hafter : ∀ d ∈ after.reverse, (d != c) = true := fun d hd =>
    bne_iff_ne.mpr (ne_of_mem_of_not_mem (List.mem_reverse.mp hd) h)
  rw [Text.afterLast, List.reverse_append, List.reverse_cons, List.append_assoc,
    List.takeWhile_append_of_pos hafter]
  simp

namespace Language

open Text (isBlank words)

/-- The name of the program starts with that of an interpreter of the language. -/
def Runs (language : Language) (program : List Char) : Prop :=
  ∃ interpreter ∈ language.interpreters, interpreter.toList <+: program

instance (language : Language) (program : List Char) : Decidable (language.Runs program) :=
  inferInstanceAs (Decidable (∃ interpreter ∈ language.interpreters, interpreter.toList <+: program))

theorem ofProgram?_eq_find? (program : List Char) : ofProgram? program = all.find? (·.Runs program) := by
  unfold ofProgram?
  congr 1
  funext language
  rw [Bool.eq_iff_iff, List.any_eq_true, decide_eq_true_iff]
  simp only [List.isPrefixOf_iff_prefix, Runs]

/-- A program in a directory and the arguments it gets. -/
structure Call where
  directory : List Char
  program : List Char
  arguments : List Char
  directory_solid : Text.IsSolid directory
  program_solid : Text.IsSolid program
  program_ne_nil : program ≠ []
  slash_not_mem_program : '/' ∉ program

/-- A word with a dash in front, and the blank behind it. -/
structure Flag where
  word : List Char
  blank : Char
  head?_word : word.head? = some '-'
  word_solid : Text.IsSolid word
  isBlank_blank : isBlank blank = true

def Flag.text (flag : Flag) : List Char :=
  flag.word ++ [flag.blank]

namespace Call

def command (call : Call) : List Char :=
  call.program ++ ' ' :: call.arguments

/-- The launcher with its flags, and the program with its arguments. -/
def launch (call : Call) (flags : List Flag) : List Char :=
  ['e', 'n', 'v'] ++ ' ' :: (flags.flatMap (·.text) ++ call.command)

/-- The interpreter line that names the program itself. -/
def direct (call : Call) : List Char :=
  '#' :: '!' :: (call.directory ++ '/' :: call.command)

/-- The interpreter line that has a launcher in the directory start the program. -/
def wrapped (call : Call) (flags : List Flag) : List Char :=
  '#' :: '!' :: (call.directory ++ '/' :: call.launch flags)

end Call

variable {before after directory : List Char} {call : Call} {flags : List Flag}

section Programs

theorem program?_eq (before : List Char) (h : '/' ∉ after) :
    program? ('#' :: '!' :: (before ++ '/' :: after)) =
      let interpreter := (words after).head?.getD []
      let program := if interpreter = ['e', 'n', 'v'] then
        launched ('#' :: '!' :: (before ++ '/' :: after)) else interpreter
      if program.isEmpty then none else some program := by
  have htrim : Text.trim ('#' :: '!' :: (before ++ '/' :: after)) =
      '#' :: '!' :: (before ++ '/' :: Text.trimEnd after) := by
    rw [Text.trim, Text.trimStart_cons_of_not_isBlank (by decide)]
    exact Text.trimEnd_append_cons ('#' :: '!' :: before) (by decide) after
  have hfree : '/' ∉ Text.trimEnd after := by
    obtain ⟨blanks, hafter, -⟩ := Text.exists_trimEnd_append after
    rw [← hafter, List.mem_append, not_or] at h
    exact h.1
  have hlast : Text.afterLast '/' ('#' :: '!' :: (before ++ '/' :: Text.trimEnd after)) =
      Text.trimEnd after :=
    Text.afterLast_append ('#' :: '!' :: before) hfree
  have hlaunched : launched ('#' :: '!' :: (before ++ '/' :: Text.trimEnd after)) =
      launched ('#' :: '!' :: (before ++ '/' :: after)) := by
    rw [launched, ← htrim, Text.words_trim, launched]
  simp only [program?, htrim, hlast, hlaunched, Text.words_trimEnd]

/-- The word behind the last slash is the program, unless it is the launcher. -/
theorem program?_of_head?_ne (before : List Char) (h : '/' ∉ after)
    (henv : (words after).head? ≠ some ['e', 'n', 'v']) :
    program? ('#' :: '!' :: (before ++ '/' :: after)) = (words after).head? := by
  rw [program?_eq before h]
  cases hhead : (words after).head? with
  | none => rfl
  | some word =>
    have hword : word ≠ [] := Text.ne_nil_of_mem_words (List.mem_of_head? hhead)
    have hne : word ≠ ['e', 'n', 'v'] := fun heq => henv (by rw [hhead, heq])
    simp [hword, hne]

theorem program?_of_head?_eq (before : List Char) (h : '/' ∉ after)
    (henv : (words after).head? = some ['e', 'n', 'v']) {program : List Char} (hne : program ≠ [])
    (hlaunched : launched ('#' :: '!' :: (before ++ '/' :: after)) = program) :
    program? ('#' :: '!' :: (before ++ '/' :: after)) = some program := by
  rw [program?_eq before h, henv]
  simp [hlaunched, hne]

/-- What a launcher starts is the first word behind it without a dash. -/
theorem launched_eq (hdirectory : Text.IsSolid directory) (rest : List Char) :
    launched ('#' :: '!' :: (directory ++ '/' :: (['e', 'n', 'v'] ++ ' ' :: rest))) =
      ((words rest).find? fun word => word.head? != some '-').getD [] := by
  have hsolid : Text.IsSolid ('#' :: '!' :: (directory ++ ['/', 'e', 'n', 'v'])) := by
    rw [Text.isSolid_cons, Text.isSolid_cons, Text.isSolid_append]
    exact ⟨by decide, by decide, hdirectory, by decide⟩
  have hwords : words ('#' :: '!' :: (directory ++ '/' :: (['e', 'n', 'v'] ++ ' ' :: rest))) =
      ('#' :: '!' :: (directory ++ ['/', 'e', 'n', 'v'])) :: words rest := by
    rw [← Text.words_cons_of_isBlank (c := ' ') (by decide) rest,
      ← Text.words_append (List.cons_ne_nil _ _) hsolid (by simp; decide)]
    simp
  have hsuffix : ['e', 'n', 'v'].isSuffixOf ('#' :: '!' :: (directory ++ ['/', 'e', 'n', 'v'])) = true :=
    List.isSuffixOf_iff_suffix.mpr ⟨'#' :: '!' :: (directory ++ ['/']), by simp⟩
  rw [launched, hwords, List.dropWhile_cons_of_neg (by simp [hsuffix])]

end Programs

section Calls

theorem Flag.words_append (flag : Flag) (rest : List Char) :
    words (flag.text ++ rest) = flag.word :: words rest := by
  have hne : flag.word ≠ [] := fun hnil => by simpa [hnil] using flag.head?_word
  have hrest : ∀ c ∈ (flag.blank :: rest).head?, isBlank c = true := by
    simpa using flag.isBlank_blank
  rw [Flag.text, List.append_assoc, List.singleton_append, Text.words_append hne flag.word_solid hrest,
    Text.words_cons_of_isBlank flag.isBlank_blank]

theorem Flag.slash_not_mem_text {flag : Flag} (h : '/' ∉ flag.word) : '/' ∉ flag.text := by
  have hblank : '/' ≠ flag.blank := by
    intro heq
    have hslash : isBlank '/' = true := heq ▸ flag.isBlank_blank
    exact absurd hslash (by decide)
  simp [Flag.text, h, hblank]

theorem words_flags_append (flags : List Flag) (rest : List Char) :
    words (flags.flatMap (·.text) ++ rest) = flags.map (·.word) ++ words rest := by
  induction flags with
  | nil => rfl
  | cons flag flags ih =>
    rw [List.flatMap_cons, List.append_assoc, flag.words_append, ih]
    rfl

namespace Call

theorem words_command (call : Call) :
    words call.command = call.program :: words call.arguments := by
  rw [command, Text.words_append call.program_ne_nil call.program_solid (by simp; decide),
    Text.words_cons_of_isBlank (by decide)]

theorem head?_words_launch (call : Call) (flags : List Flag) :
    (words (call.launch flags)).head? = some ['e', 'n', 'v'] := by
  rw [launch, Text.words_append (by simp) (by decide) (by simp; decide)]
  rfl

theorem slash_not_mem_command (h : '/' ∉ call.arguments) : '/' ∉ call.command := by
  simp [command, call.slash_not_mem_program, h]

theorem slash_not_mem_launch (h : '/' ∉ call.arguments) (hflags : ∀ flag ∈ flags, '/' ∉ flag.word) :
    '/' ∉ call.launch flags := by
  have htexts : '/' ∉ flags.flatMap (·.text) := by
    intro hmem
    obtain ⟨flag, hflag, htext⟩ := List.mem_flatMap.mp hmem
    exact Flag.slash_not_mem_text (hflags flag hflag) htext
  simp [launch, htexts, slash_not_mem_command h]

/-- The launcher starts the program: the words before it all have a dash. -/
theorem launched_wrapped (hdash : call.program.head? ≠ some '-') (flags : List Flag) :
    launched (call.wrapped flags) = call.program := by
  have hflags : (flags.map (·.word)).find? (fun word => word.head? != some '-') = none := by
    simp [List.find?_eq_none, Flag.head?_word]
  rw [wrapped, launch, launched_eq call.directory_solid, words_flags_append, call.words_command,
    List.find?_append, hflags, Option.none_or, List.find?_cons_of_pos (by simpa using hdash),
    Option.getD_some]

theorem program?_direct (h : '/' ∉ call.arguments) (hne : call.program ≠ ['e', 'n', 'v']) :
    program? call.direct = some call.program := by
  have hhead : (words call.command).head? = some call.program := by
    rw [call.words_command]
    rfl
  have henv : (words call.command).head? ≠ some ['e', 'n', 'v'] := by simpa [hhead] using hne
  exact (program?_of_head?_ne call.directory (slash_not_mem_command h) henv).trans hhead

theorem program?_wrapped (h : '/' ∉ call.arguments) (hdash : call.program.head? ≠ some '-')
    (hflags : ∀ flag ∈ flags, '/' ∉ flag.word) : program? (call.wrapped flags) = some call.program :=
  program?_of_head?_eq call.directory (slash_not_mem_launch h hflags) (call.head?_words_launch flags)
    call.program_ne_nil (launched_wrapped hdash flags)

end Call

end Calls

/-- Both interpreter lines of a call stand for the first language that its program runs, if no argument
and no flag holds a slash.  Otherwise the first word behind the last slash of the line is taken for the
program, unless it is the launcher. -/
theorem interpreter_line_names_program (call : Call) (flags : List Flag) :
    ('/' ∉ call.arguments →
      (call.program ≠ ['e', 'n', 'v'] →
        ofInterpreterLine? call.direct = all.find? (·.Runs call.program)) ∧
      ((∀ flag ∈ flags, '/' ∉ flag.word) → call.program.head? ≠ some '-' →
        ofInterpreterLine? (call.wrapped flags) = all.find? (·.Runs call.program))) ∧
    ∀ line ∈ [call.direct, call.wrapped flags], ∀ before after : List Char,
      line = '#' :: '!' :: (before ++ '/' :: after) → '/' ∉ after →
      (words after).head? ≠ some ['e', 'n', 'v'] →
      ofInterpreterLine? line = (words after).head?.bind fun program => all.find? (·.Runs program) := by
  simp only [← ofProgram?_eq_find?]
  refine ⟨fun h => ⟨fun hne => ?_, fun hflags hdash => ?_⟩, ?_⟩
  · rw [ofInterpreterLine?, Call.program?_direct h hne, Option.bind_some]
  · rw [ofInterpreterLine?, Call.program?_wrapped h hdash hflags, Option.bind_some]
  · intro line _ before after hline h henv
    rw [ofInterpreterLine?, hline, program?_of_head?_ne before h henv]

/-- A program in a directory, with a flag of its own. -/
def pythonCall : Call where
  directory := ['/', 'b', 'i', 'n']
  program := ['p', 'y', 't', 'h', 'o', 'n', '3']
  arguments := ['-', 'u']
  directory_solid := by decide
  program_solid := by decide
  program_ne_nil := by decide
  slash_not_mem_program := by decide

def shellCall : Call where
  directory := ['/', 'b', 'i', 'n']
  program := ['s', 'h']
  arguments := ['/', 'e', 't', 'c', '/', 'r', 'c']
  directory_solid := by decide
  program_solid := by decide
  program_ne_nil := by decide
  slash_not_mem_program := by decide

def splitFlag : Flag where
  word := ['-', 'S']
  blank := '\t'
  head?_word := rfl
  word_solid := by decide
  isBlank_blank := by decide

theorem words_script : words ['r', 'c'] = [['r', 'c']] :=
  Text.words_eq_singleton (by decide) (by decide)

/-- Called by itself or by the launcher the program stands for its language; a shell with the path of a
script does not. -/
theorem pythonCall_named :
    '/' ∉ pythonCall.arguments ∧ pythonCall.program ≠ ['e', 'n', 'v'] ∧ '/' ∉ splitFlag.word ∧
    pythonCall.program.head? ≠ some '-' ∧
    (ofInterpreterLine? "#!/bin/python3 -u".toList).map (·.name) = some "Python" ∧
    (ofInterpreterLine? "#!/bin/env -S\tpython3 -u".toList).map (·.name) = some "Python" ∧
    (ofInterpreterLine? "#!/bin/sh /etc/rc".toList).map (·.name) = none := by
  have harguments : '/' ∉ pythonCall.arguments := by decide
  have hlauncher : pythonCall.program ≠ ['e', 'n', 'v'] := by decide
  have hflag : '/' ∉ splitFlag.word := by decide
  have hdash : pythonCall.program.head? ≠ some '-' := by decide
  obtain ⟨hdirect, hwrapped⟩ := (interpreter_line_names_program pythonCall [splitFlag]).1 harguments
  have hscript := (interpreter_line_names_program shellCall []).2 shellCall.direct (by simp)
    "/bin/sh /etc".toList ['r', 'c'] rfl (by decide) (by rw [words_script]; decide)
  have hpython : (all.find? (·.Runs pythonCall.program)).map (·.name) = some "Python" := by decide
  have hnone : (all.find? (·.Runs ['r', 'c'])).map (·.name) = none := by decide
  refine ⟨harguments, hlauncher, hflag, hdash, ?_, ?_, ?_⟩
  · exact (congrArg (Option.map (·.name)) (hdirect hlauncher)).trans hpython
  · have hline := hwrapped (by simpa using hflag) hdash
    exact (congrArg (Option.map (·.name)) hline).trans hpython
  · rw [words_script] at hscript
    exact (congrArg (Option.map (·.name)) hscript).trans hnone

/-- The script is taken for the program. -/
theorem not_all_arguments_ignored :
    ¬ ∀ (call : Call) (flags : List Flag),
      (call.program ≠ ['e', 'n', 'v'] →
        ofInterpreterLine? call.direct = all.find? (·.Runs call.program)) ∧
      (call.program.head? ≠ some '-' →
        ofInterpreterLine? (call.wrapped flags) = all.find? (·.Runs call.program)) := by
  intro h
  have hhead : (words ['r', 'c']).head? = some ['r', 'c'] := by
    rw [words_script]
    rfl
  have hscript : program? shellCall.direct = some ['r', 'c'] :=
    (program?_of_head?_ne "/bin/sh /etc".toList (by decide) (by rw [hhead]; decide)).trans hhead
  have hshell := (h shellCall []).1 (by decide)
  rw [ofInterpreterLine?, hscript, Option.bind_some, ofProgram?_eq_find?] at hshell
  have hname := congrArg (Option.map (·.name)) hshell
  revert hname
  decide

end Language

end SourceCensus
