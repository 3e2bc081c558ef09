import AccessorGen.Report

/-!
# Errors

Everything that can stop a run, by cause. The wording of each cause is in one place.
-/

set_option autoImplicit false

namespace AccessorGen

/-- Why a file could not be read or written. -/
inductive FileFault
  /-- Nothing stands at the path. -/
  | notFound
  /-- A regular file stands where a directory should be made. -/
  | fileExists
  /-- A regular file stands where the path goes through a directory. -/
  | notADirectory
  /-- A directory stands where a file should be. -/
  | isADirectory
  /-- A name on the path, or the path as a whole, has more bytes than the file system takes. -/
  | nameTooLong
  /-- The path holds the character that ends a path for the operating system. -/
  | endsEarly
  /-- The bytes of the file are not the encoding of a text. -/
  | notText
  deriving DecidableEq, Repr

def FileFault.message : FileFault → String
  | .notFound => "No such file or directory (os error 2)"
  | .fileExists => "File exists (os error 17)"
  | .notADirectory => "Not a directory (os error 20)"
  | .isADirectory => "Is a directory (os error 21)"
  | .nameTooLong => "File name too long (os error 36)"
  | .endsEarly => "file name contained an unexpected NUL byte"
  | .notText => "stream did not contain valid UTF-8"

/-- Why a run gave no result. -/
inductive Error
  /-- A schema file could not be read. -/
  | unreadableSchema (path : String) (fault : FileFault)
  /-- A schema is not a document of the format, or has not the shape of a schema. -/
  | malformedSchema
  /-- The schemas break these rules. -/
  | validation (issues : List Issue)
  /-- A request names a field that is not an instance field of the class. -/
  | unknownField (className field : String)
  /-- Two members of a class occupy the same slot. -/
  | duplicateMember (className member : String)
  /-- A companion would have to reach a private field. -/
  | inaccessibleField (className field : String)
  /-- A nested class cannot be written out as a unit of its own. -/
  | nestedClass (className : String)
  /-- Two classes of a round go to the same unit. -/
  | duplicateUnit (unit : String)
  /-- A unit could not be written. -/
  | file (fault : FileFault)
  deriving DecidableEq, Repr

def Error.message : Error → String
  | .unreadableSchema path fault =>
    s!"Configuration Error: Failed to read schema file '{path}': {fault.message}"
  | .malformedSchema => "Configuration Error: Failed to parse TOML schema"
  | .validation issues =>
    s!"Validation failed with {issues.length} error(s): " ++
      String.intercalate "; " (issues.map (·.text))
  | .unknownField className field =>
    s!"Internal Error: class '{className}' has no instance field '{field}'"
  | .duplicateMember className member =>
    s!"Internal Error: class '{className}' received member '{member}' twice"
  | .inaccessibleField className field =>
    s!"Field '{field}' of class '{className}' is private; companion helpers need package access"
  | .nestedClass className =>
    s!"Class '{className}' is nested; nested classes need the companion strategy"
  | .duplicateUnit unit => s!"Duplicate output unit: {unit}"
  | .file fault => fault.message

end AccessorGen
