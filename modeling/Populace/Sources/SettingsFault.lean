/-!
What can be wrong with the text of settings.
-/

namespace Populace.Sources

/-- What is wrong with a line. -/
inductive SettingsProblem where
  /-- It is neither blank nor a key with a text in quotes. -/
  | malformed
  | unknownKey (key : String)
  | repeatedKey (key : String)
  deriving DecidableEq, Repr

/-- What is wrong, and in which line, counted from one. -/
structure SettingsFault where
  line : Nat
  problem : SettingsProblem
  deriving DecidableEq, Repr

/-- What is said about it. -/
def SettingsFault.message (f : SettingsFault) : String :=
  "TOML parse error at line " ++ toString f.line ++ "\n" ++
    match f.problem with
    | .malformed => "expected a key and a quoted text"
    | .unknownKey key => "unknown field `" ++ key ++ "`"
    | .repeatedKey key => "duplicate key `" ++ key ++ "`"

end Populace.Sources
