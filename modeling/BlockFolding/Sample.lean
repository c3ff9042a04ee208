/-
  The sample text

  The text that the program scans when it is given none: a short test module whose twelfth line
  opens a block of nine lines.
-/

namespace BlockFolding.Sample

/-- The language of the sample, by the name an editor knows it. -/
def language : String := "python"

def lines : List String := [
  "import __main__",
  "import os",
  "import typing",
  "",
  "# Test functions",
  "",
  "def test_user():",
  "\t",
  "\t# Input arguments",
  "",
  "\tname = \"test\"",
  "\ttestObject = \x7b",
  "\t    'a': 1,",
  "\t    'b': 2,",
  "\t    'c': 3,",
  "\t    'd': 4,",
  "\t    'e': 5,",
  "\t    'f': 6,",
  "\t    'g': 7,",
  "\t\x7d",
  "",
  "\t# Mocks",
  "",
  "\t# Function call",
  "",
  "\tresult = __main__.user(",
  "\t\tname=name",
  "\t)",
  "",
  "\t# Expected value",
  "",
  "\texpected = \"<h1>Hello, test!</h1>\"",
  "",
  "\t# Assertions",
  "",
  "\tassert result == expected",
  ""]

def source : String := "\n".intercalate lines

end BlockFolding.Sample
