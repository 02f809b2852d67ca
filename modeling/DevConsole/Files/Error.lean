/-!
# Failures of the file tree

Every failure carries the path or the name that the operation was given, so that its message points
at the offending entry.
-/

namespace DevConsole.Files

inductive FileError where
  | notFound (what : String)
  | notADirectory (what : String)
  | notAFile (what : String)
  | alreadyExists (what : String)
  | invalidName (name : String)
  deriving DecidableEq, Repr

def FileError.message : FileError → String
  | .notFound what => "Not found: " ++ what
  | .notADirectory what => "Not a directory: " ++ what
  | .notAFile what => "Not a file: " ++ what
  | .alreadyExists what => "Already exists: " ++ what
  | .invalidName name => "Invalid name: '" ++ name ++ "'"

end DevConsole.Files
