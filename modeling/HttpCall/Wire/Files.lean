import HttpCall.Error

/-!
# Files

File parts are read when a body is sent. A file store holds the files that exist, by
path. The root, the working directory and its parents (paths made only of `.`, `..`
and `/`) are directories, which can be opened but not read; a stored file is not a
directory, so a path through it fails; any other path names nothing.
-/

namespace HttpCall

/-- The files a body can read, by path. -/
structure FileStore where
  files : List (String × List UInt8) := []
  deriving DecidableEq, Repr, Inhabited

namespace FileStore

/-- The error of a path that names nothing. -/
def notFound : IoError := ⟨.notFound, "No such file or directory (os error 2)"⟩

/-- The error of reading a directory. -/
def isDirectory : IoError := ⟨.isADirectory, "Is a directory (os error 21)"⟩

/-- The error of a path that goes through a file. -/
def notDirectory : IoError := ⟨.notADirectory, "Not a directory (os error 20)"⟩

/-- Does a path name the root, the working directory or one of its parents? -/
def isKnownDirectory (path : String) : Bool :=
  !path.isEmpty && (path.splitOn "/").all (fun c => c == "" || c == "." || c == "..")

/-- The bytes of the file at a path. -/
def read (fs : FileStore) (path : String) : Except IoError (List UInt8) :=
  match fs.files.find? (·.1 == path) with
  | some (_, data) => .ok data
  | none =>
    if isKnownDirectory path then .error isDirectory
    else if fs.files.any (fun f => path.startsWith (f.1 ++ "/")) then .error notDirectory
    else .error notFound

end FileStore

end HttpCall
