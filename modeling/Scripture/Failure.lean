/-!
# Failures

Every operation of the library that can fail names the cause of its failure with a type of
its own, and turns it into a `Failure` for its callers: a kind, which callers may tell
apart, and the text that the program prints for it.
-/

namespace Scripture

/-- The kinds of failure that callers of the library tell apart. -/
inductive FailureKind where
  /-- A value of the wrong type was given. -/
  | wrongType
  /-- A value of the right type but an unusable value was given. -/
  | badValue
  /-- A position past the end of a sequence was asked for. -/
  | outOfRange
  /-- A key that a table does not have was asked for. -/
  | missingKey
  /-- A value was asked for a member it does not have. -/
  | missingMember
  /-- A name was read before anything was given to it. -/
  | unsetName
  /-- A name that nothing defines was read. -/
  | undefinedName
  /-- A division by zero. -/
  | divisionByZero
  /-- The program ended on purpose. -/
  | exit
  /-- A pattern, or a stored table, could not be used. -/
  | refused
  /-- A text is not JSON. -/
  | badJson
  /-- A module to load does not exist. -/
  | missingModule
  /-- A name to load from a module does not exist. -/
  | missingImport
  /-- A value is too large to convert. -/
  | overflow
  /-- A cookie header names a cookie with a character a name may not have. -/
  | badCookie
deriving DecidableEq, Repr

/-- A failure: its kind and the text the program gives for it. -/
structure Failure where
  kind : FailureKind
  message : String
deriving DecidableEq, Repr

end Scripture
