import ClaimGrid.Settings.Basic
import ClaimGrid.Toml.Record

/-!
# Loading settings

Settings are loaded from a TOML document, which may lie in a file, and are validated.

## Main definitions

* `WorldSettings.ofToml`: the settings that a text lists.
* `FileContent.absent`: what reading a path gives where no file lies.
* `FileContent`, `WorldSettings.ofFile`: the settings that a file lists, or why it cannot be read.
-/

namespace ClaimGrid

/-- What reading a file gives. -/
inductive FileContent where
  /-- Its bytes. -/
  | bytes (content : ByteArray)
  /-- There is no such file. -/
  | missing
  /-- The path names a directory. -/
  | directory
  /-- Reading failed otherwise. -/
  | failed (reason : String)

/-- What reading a path gives where no file lies. A path of dots leads to a directory, a path with a
zero character or one of 4096 bytes or more is refused, and so is a name of more than 255 bytes.
Only the first name counts: nothing lies below it. -/
def FileContent.absent (path : String) : FileContent :=
  let tooLong := .failed "File name too long (os error 36)"
  if path.toList.contains '\x00' then .failed "file name contained an unexpected NUL byte"
  else if 4096 ≤ path.utf8ByteSize then tooLong
  else
    match (path.splitOn "/").find? fun part => part ∉ ["", ".", ".."] with
    | some part => if 255 < part.utf8ByteSize then tooLong else .missing
    | none => if path.isEmpty then .missing else .directory

namespace WorldSettings

/-- The validated settings that a TOML document lists. -/
def ofToml (text : String) : Except SettingsError WorldSettings :=
  match Toml.read? text with
  | none => .error (.malformed "not a TOML document")
  | some document =>
    match ofDocument? document with
    | none => .error (.malformed "a setting has the wrong type or is too large")
    | some c =>
      match c.validate with
      | .error e => .error e
      | .ok () => .ok c

/-- The validated settings that a file lists. -/
def ofFile (path : String) : FileContent → Except SettingsError WorldSettings
  | .missing => .error (.unreadable path "No such file or directory (os error 2)")
  | .directory => .error (.unreadable path "Is a directory (os error 21)")
  | .failed reason => .error (.unreadable path reason)
  | .bytes content =>
    match String.fromUTF8? content with
    | none => .error (.unreadable path "stream did not contain valid UTF-8")
    | some text => ofToml text

end WorldSettings

end ClaimGrid
