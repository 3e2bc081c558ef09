import AccessorGen.Error

/-!
# Places

A place is the list of names from the working directory down. Names above it and the root of the
file system are places too, so every path leads somewhere. A file system may still refuse a path for
its length alone, or for a character that no path has.
-/

set_option autoImplicit false

namespace AccessorGen

/-- A place in the tree. -/
abbrev Place := List String

namespace Place

def up : String := ".."

def top : String := "/"

/-- Whether the place lies on the way up from the working directory, where there are nothing but
directories. -/
def isAbove (p : Place) : Bool := p.all (· == up) || p == [top]

def step (p : Place) (name : String) : Place :=
  if name == top then [top]
  else if name != up then p ++ [name]
  else if p == [top] then p
  else if p.all (· == up) then p ++ [up]
  else p.dropLast

/-- The names on the way that a path describes. Empty ones and those that lead nowhere are left
out, and a path from the root says so at once. -/
def names (path : String) : List String :=
  let parts := (path.toList.splitOn '/').map String.ofList
  (if path.toList.head? == some '/' then [top] else []) ++
    parts.filter fun part => part != "" && part != "."

/-- The path of the directory that holds what the path names. It is empty or ends in a name: the parts
before the last one that lead nowhere are left out as well. -/
def parent (path : String) : String :=
  let parts := (path.toList.splitOn '/').map String.ofList
  let kept := parts.reverse.tail.dropWhile fun part => part == "" || part == "."
  String.intercalate "/" kept.reverse

end Place

/-- How many bytes the names and the paths of a file system have at most. -/
structure Limits where
  name : Nat
  path : Nat
  deriving DecidableEq, Repr

namespace Limits

def usual : Limits := ⟨255, 4095⟩

def takesName (l : Limits) (name : String) : Bool := name.utf8ByteSize ≤ l.name

/-- Refuses a path that cannot even be asked for. The character that ends a path for the operating
system is noticed before the length is. -/
def checkPath (l : Limits) (path : String) : Except FileFault Unit :=
  if path.toList.contains '\x00' then .error .endsEarly
  else if path.utf8ByteSize ≤ l.path then .ok ()
  else .error .nameTooLong

end Limits

end AccessorGen
