/-!
# Path names

A file part is named by a path. Its file name is the last component of the path, where
components are the texts between `/` separators with empty ones and `.` dropped; a path
whose last component is `..`, or that has none (`/`, `.`, the empty path), has no file
name. The extension is the text after the last `.` of the file name, unless that dot
begins the name (`.bashrc` has none).
-/

namespace HttpCall.PathName

/-- The components of a path, with empty ones and `.` dropped. -/
def components (path : String) : List String :=
  (path.splitOn "/").filter (fun c => c != "" && c != ".")

/-- The last component of a path, unless it is `..` or there is none. -/
def fileName? (path : String) : Option String :=
  match (components path).getLast? with
  | some ".." => none
  | some c => some c
  | none => none

/-- The text after the last dot of a file name, unless that dot begins the name. -/
def extensionOfName? (name : String) : Option String :=
  if name == ".." then none
  else
    let cs := name.toList
    match cs.reverse.idxOf? '.' with
    | none => none
    | some i =>
      let before := cs.take (cs.length - 1 - i)
      if before.isEmpty then none
      else some (String.ofList (cs.drop (cs.length - i)))

/-- The extension of the file a path names. -/
def extension? (path : String) : Option String :=
  (fileName? path).bind extensionOfName?

end HttpCall.PathName
