/-!
# Dotted names

A qualified name is its segments with a dot between each two. Names are taken apart as lists of
characters, where cutting off a known beginning or end is cancelling one side of an append.
-/

set_option autoImplicit false

namespace AccessorGen.Text

/-- The parts between the dots. There is at least one, which may be empty. -/
def segments (s : String) : List String := (s.toList.splitOn '.').map String.ofList

/-- What follows the last dot; the whole text if it has none. -/
def lastSegment (s : String) : String := (segments s).getLastD ""

def flattenDots (s : String) : String :=
  String.ofList (s.toList.map fun c => if c = '.' then '_' else c)

/-- What follows `start`, when the text begins with it. -/
def afterPrefix? (start s : String) : Option String :=
  (start.toList.isPrefixOf? s.toList).map String.ofList

/-- What precedes `ending`, when the text ends with it. -/
def beforeSuffix? (ending s : String) : Option String :=
  (ending.toList.isSuffixOf? s.toList).map String.ofList

end AccessorGen.Text
