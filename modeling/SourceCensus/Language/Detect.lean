import SourceCensus.Language.Registry
import SourceCensus.Path.Basic
import SourceCensus.Text.Blank

/-! # Recognising the language of a file -/

namespace SourceCensus.Language

def ofWholeName? (name : String) : Option Language :=
  all.find? (·.filenames.contains name)

def ofExtension? (extension : String) : Option Language :=
  all.find? (·.extensions.contains extension)

def ofFileName? (name : String) : Option Language :=
  (ofWholeName? name).or ((extensionOf name).bind ofExtension?)

/-- The first language one of whose interpreters' names `program` starts with. -/
def ofProgram? (program : List Char) : Option Language :=
  all.find? fun language =>
    language.interpreters.any fun interpreter => interpreter.toList.isPrefixOf program

/-- The program that a launcher named `env` starts: the first word after it that is no flag. -/
def launched (line : List Char) : List Char :=
  match (Text.words line).dropWhile fun word => ! ['e', 'n', 'v'].isSuffixOf word with
  | [] => []
  | _ :: arguments => (arguments.find? fun word => word.head? != some '-').getD []

/-- The program that an interpreter line names: the first word after its last slash, or what that
word launches. -/
def program? (line : List Char) : Option (List Char) :=
  match Text.trim line with
  | '#' :: '!' :: rest =>
    let trimmed := '#' :: '!' :: rest
    let interpreter := (Text.words (Text.afterLast '/' trimmed)).head?.getD []
    let program := if interpreter = ['e', 'n', 'v'] then launched trimmed else interpreter
    if program.isEmpty then none else some program
  | _ => none

def ofInterpreterLine? (line : List Char) : Option Language :=
  (program? line).bind ofProgram?

end SourceCensus.Language
