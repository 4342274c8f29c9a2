/-!
What can go wrong with files, and how it is told.
-/

namespace Populace.Files

/-- What was tried. -/
inductive Attempt where
  | openFile
  | readFile
  | createFile
  | writeFile
  | createDirectory
  | renameTo (target : String)
  deriving DecidableEq, Repr

/-- Why it failed. -/
inductive Reason where
  | notFound
  | exists
  | notDirectory
  | isDirectory
  | nameTooLong
  | zeroByte
  | notText
  deriving DecidableEq, Repr

/-- What is said about a reason; those of the operating system have a number. -/
def Reason.message : Reason → String
  | .notFound => "No such file or directory (os error 2)"
  | .exists => "File exists (os error 17)"
  | .notDirectory => "Not a directory (os error 20)"
  | .isDirectory => "Is a directory (os error 21)"
  | .nameTooLong => "File name too long (os error 36)"
  | .zeroByte => "file name contained an unexpected NUL byte"
  | .notText => "stream did not contain valid UTF-8"

/-- What was tried with a path, and why it failed. -/
structure Fault where
  attempt : Attempt
  path : String
  reason : Reason
  deriving DecidableEq, Repr

/-- What is said about an attempt with a path. -/
def Attempt.message (path : String) : Attempt → String
  | .openFile => "failed to open file `" ++ path ++ "`"
  | .readFile => "failed to read from file `" ++ path ++ "`"
  | .createFile => "failed to create file `" ++ path ++ "`"
  | .writeFile => "failed to write to file `" ++ path ++ "`"
  | .createDirectory => "failed to create directory `" ++ path ++ "`"
  | .renameTo target => "failed to rename file from `" ++ path ++ "` to `" ++ target ++ "`"

/-- What is said about a fault: what was tried, and then why it failed. -/
def Fault.messages (f : Fault) : List String :=
  [f.attempt.message f.path, f.reason.message]

end Populace.Files
