import SourceCensus.Text.Search

/-! # Names of test files -/

namespace SourceCensus

structure TestConvention where
  extensions : List String
  endings : List String
  beginnings : List String := []
  deriving DecidableEq, Repr

def testConventions : List TestConvention := [
  { extensions := ["rs", "go", "exs", "dart"], endings := ["_test"] },
  { extensions := ["py"], endings := ["_test"], beginnings := ["test_"] },
  { extensions := ["rb"], endings := ["_test", "_spec"] },
  { extensions := ["php"], endings := ["Test", "_test"] },
  { extensions := ["js", "jsx", "mjs", "cjs", "ts", "tsx", "mts", "cts"],
    endings := [".test", ".spec"] },
  { extensions := ["java", "kt", "kts", "cs", "swift"], endings := ["Test", "Tests"] },
  { extensions := ["scala"], endings := ["Test", "Spec"] },
  { extensions := ["c"], endings := ["_test", "_unittest"], beginnings := ["test_"] },
  { extensions := ["cc", "cpp", "cxx"], endings := ["_test", "_unittest", "Test"],
    beginnings := ["test_"] },
  { extensions := ["hs"], endings := ["Test", "Spec"] }]

/-- Whether the convention takes a name, split at its last dot, for a test file's. -/
def TestConvention.covers (convention : TestConvention) (base extension : List Char) : Bool :=
  convention.extensions.contains (String.ofList extension) &&
    (convention.endings.any (fun ending => ending.toList.isSuffixOf base) ||
      convention.beginnings.any fun beginning => beginning.toList.isPrefixOf base)

def isTestName (name : String) : Bool :=
  match Text.splitLast? '.' name.toList with
  | none => false
  | some (base, extension) => testConventions.any (·.covers base extension)

def testDirectories : List String := ["tests", "test", "__tests__", "spec"]

end SourceCensus
