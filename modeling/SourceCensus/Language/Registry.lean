import SourceCensus.Language.Lexis

/-! # The known languages -/

namespace SourceCensus.Language

def slashes : List Char := ['/', '/']

def hash : List Char := ['#']

def dashes : List Char := ['-', '-']

def starred : Fence := ⟨['/', '*'], ['*', '/']⟩

def parenthesised : Fence := ⟨['(', '*'], ['*', ')']⟩

def angled : Fence := ⟨['<', '!', '-', '-'], ['-', '-', '>']⟩

/-- All known languages.  Of two languages that a file fits, the earlier one wins. -/
def all : List Language := [
  { name := "Rust", extensions := ["rs"],
    lexis := { lineMarkers := [slashes], block := some starred, nests := true } },
  { name := "Python", extensions := ["py", "pyi"],
    lexis := { lineMarkers := [hash], singleQuotes := true, tripleQuotes := true },
    interpreters := ["python", "python3"] },
  { name := "JavaScript", extensions := ["js", "mjs", "cjs"],
    lexis := { lineMarkers := [slashes], block := some starred, singleQuotes := true },
    interpreters := ["node"] },
  { name := "TypeScript", extensions := ["ts", "mts", "cts"],
    lexis := { lineMarkers := [slashes], block := some starred, singleQuotes := true } },
  { name := "Java", extensions := ["java"],
    lexis := { lineMarkers := [slashes], block := some starred } },
  { name := "C", extensions := ["c", "h"],
    lexis := { lineMarkers := [slashes], block := some starred } },
  { name := "C++", extensions := ["cpp", "cxx", "cc", "hpp", "hxx"],
    lexis := { lineMarkers := [slashes], block := some starred } },
  { name := "C#", extensions := ["cs"],
    lexis := { lineMarkers := [slashes], block := some starred } },
  { name := "Go", extensions := ["go"],
    lexis := { lineMarkers := [slashes], block := some starred } },
  { name := "Ruby", extensions := ["rb"], filenames := ["Rakefile", "Gemfile"],
    lexis := { lineMarkers := [hash], singleQuotes := true }, interpreters := ["ruby"] },
  { name := "Bourne Shell", extensions := ["sh"],
    lexis := { lineMarkers := [hash], singleQuotes := true }, interpreters := ["sh"] },
  { name := "Bourne Again Shell", extensions := ["bash"],
    lexis := { lineMarkers := [hash], singleQuotes := true }, interpreters := ["bash"] },
  { name := "Zsh", extensions := ["zsh"],
    lexis := { lineMarkers := [hash], singleQuotes := true }, interpreters := ["zsh"] },
  { name := "HTML", extensions := ["html", "htm"],
    lexis := { block := some angled, singleQuotes := true } },
  { name := "CSS", extensions := ["css"],
    lexis := { block := some starred, singleQuotes := true } },
  { name := "SQL", extensions := ["sql"],
    lexis := { lineMarkers := [dashes], block := some starred, singleQuotes := true } },
  { name := "TOML", extensions := ["toml"], lexis := { lineMarkers := [hash] } },
  { name := "YAML", extensions := ["yaml", "yml"], lexis := { lineMarkers := [hash] } },
  { name := "JSON", extensions := ["json"] },
  { name := "Markdown", extensions := ["md", "markdown"] },
  { name := "Kotlin", extensions := ["kt", "kts"],
    lexis := { lineMarkers := [slashes], block := some starred, nests := true } },
  { name := "Swift", extensions := ["swift"],
    lexis := { lineMarkers := [slashes], block := some starred, nests := true } },
  { name := "PHP", extensions := ["php"],
    lexis := { lineMarkers := [slashes], block := some starred, singleQuotes := true } },
  { name := "Dart", extensions := ["dart"],
    lexis := { lineMarkers := [slashes], block := some starred, singleQuotes := true } },
  { name := "Haskell", extensions := ["hs"],
    lexis := {
      lineMarkers := [dashes],
      operatorTails :=
        ['!', '#', '$', '%', '&', '*', '+', '.', '/', '<', '=', '>', '?', '@', '\\', '^', '|', '~'],
      block := some ⟨['{', '-'], ['-', '}']⟩, nests := true,
      directive := some ⟨['{', '-', '#'], ['#', '-', '}']⟩ } },
  { name := "Lua", extensions := ["lua"],
    lexis := {
      lineMarkers := [dashes], block := some ⟨['-', '-', '[', '['], [']', ']']⟩,
      singleQuotes := true },
    interpreters := ["lua"] },
  { name := "Perl", extensions := ["pl", "pm"],
    lexis := { lineMarkers := [hash], singleQuotes := true }, interpreters := ["perl"] },
  { name := "R", extensions := ["r", "R"],
    lexis := { lineMarkers := [hash], singleQuotes := true }, interpreters := ["Rscript"] },
  { name := "Scala", extensions := ["scala", "sc", "sbt"],
    lexis := { lineMarkers := [slashes], block := some starred, nests := true } },
  { name := "XML",
    extensions := ["xml", "xsl", "xslt", "svg", "fsproj", "csproj", "vbproj", "vcxproj", "sln", "plist",
      "xaml"],
    lexis := { block := some angled, singleQuotes := true } },
  { name := "Dockerfile", filenames := ["Dockerfile"], lexis := { lineMarkers := [hash] } },
  { name := "Makefile", extensions := ["mk"],
    filenames := ["Makefile", "makefile", "GNUmakefile"], lexis := { lineMarkers := [hash] } },
  { name := "Elixir", extensions := ["ex"],
    lexis := { lineMarkers := [hash], singleQuotes := true }, interpreters := ["elixir"] },
  { name := "Elixir Script", extensions := ["exs"],
    lexis := { lineMarkers := [hash], singleQuotes := true } },
  { name := "Clojure", extensions := ["clj", "cljs", "cljc", "edn"],
    lexis := { lineMarkers := [[';']] } },
  { name := "Zig", extensions := ["zig"], lexis := { lineMarkers := [slashes] } },
  { name := "Objective-C", extensions := ["m", "mm"],
    lexis := { lineMarkers := [slashes], block := some starred } },
  { name := "OCaml", extensions := ["ml", "mli"],
    lexis := { block := some parenthesised, nests := true } },
  { name := "F#", extensions := ["fs", "fsi", "fsx"],
    lexis := { lineMarkers := [slashes], block := some parenthesised, nests := true } },
  { name := "Nim", extensions := ["nim"],
    lexis := { lineMarkers := [hash], block := some ⟨['#', '['], [']', '#']⟩, nests := true } },
  { name := "Julia", extensions := ["jl"],
    lexis := { lineMarkers := [hash], block := some ⟨['#', '='], ['=', '#']⟩, nests := true },
    interpreters := ["julia"] },
  { name := "Terraform", extensions := ["tf"],
    lexis := { lineMarkers := [hash], block := some starred } },
  { name := "Groovy", extensions := ["groovy"],
    lexis := { lineMarkers := [slashes], block := some starred, singleQuotes := true } },
  { name := "Gradle", extensions := ["gradle"],
    lexis := { lineMarkers := [slashes], block := some starred, singleQuotes := true } },
  { name := "Erlang", extensions := ["erl", "hrl"], lexis := { lineMarkers := [['%']] } },
  { name := "DOS Batch", extensions := ["bat", "cmd"],
    lexis := {
      lineMarkers :=
        [[':', ':'], ['r', 'e', 'm', ' '], ['R', 'E', 'M', ' '], ['R', 'e', 'm', ' ']] } },
  { name := "Properties", extensions := ["properties"], lexis := { lineMarkers := [hash] } },
  { name := "Text", extensions := ["txt"] } ]

def ofName? (name : String) : Option Language :=
  all.find? (·.name == name)

end SourceCensus.Language
