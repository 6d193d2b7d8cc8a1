import HttpCall.MediaType.Basic
import HttpCall.Text.PathName

/-!
# Media types of file extensions

A file part without a declared type is sent with the type its extension suggests. The
extension is trimmed of Unicode white space and of leading dots and folded to small ASCII
letters; an extension the table does not know is `application/octet-stream`.
-/

namespace HttpCall.MediaType

/-- The known extensions and their types. -/
def extensionTable : List (String × MediaType) :=
  [("json", json),
    ("doc", ⟨"application", "msword", none⟩),
    ("docx", ⟨"application", "vnd.openxmlformats-officedocument.wordprocessingml.document", none⟩),
    ("xls", ⟨"application", "vnd.ms-excel", none⟩),
    ("xlsx", ⟨"application", "vnd.openxmlformats-officedocument.spreadsheetml.sheet", none⟩),
    ("ppt", ⟨"application", "vnd.ms-powerpoint", none⟩),
    ("pptx", ⟨"application",
      "vnd.openxmlformats-officedocument.presentationml.presentation", none⟩),
    ("pdf", ⟨"application", "pdf", none⟩),
    ("zip", ⟨"application", "zip", none⟩),
    ("gzip", ⟨"application", "gzip", none⟩),
    ("gz", ⟨"application", "gzip", none⟩),
    ("png", ⟨"image", "png", none⟩),
    ("jpeg", ⟨"image", "jpeg", none⟩),
    ("jpg", ⟨"image", "jpeg", none⟩),
    ("gif", ⟨"image", "gif", none⟩),
    ("html", textHtml),
    ("htm", textHtml),
    ("txt", textPlain),
    ("apk", ⟨"application", "vnd.android.package-archive", none⟩),
    ("ipa", ⟨"application", "x-ios-app", none⟩)]

/-- The type an extension suggests. -/
def ofExtension (ext : String) : MediaType :=
  let key := Ascii.lowerText (String.ofList ((Blank.trim ext).toList.dropWhile (· == '.')))
  match extensionTable.find? (fun e => e.1 == key) with
  | some (_, m) => m
  | none => octetStream

/-- The type of the file a path names: by its extension, or `application/octet-stream`
when it has none. -/
def ofPath (path : String) : MediaType :=
  match PathName.extension? path with
  | some ext => ofExtension ext
  | none => octetStream

end HttpCall.MediaType
