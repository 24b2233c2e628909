import MiddleEnd.Settings.Document
import MiddleEnd.Wire.Read

/-!
# Settings

`Settings` holds what a session is told about rendering identifiers. Settings come from a document
(`Settings.parse`), from the contents of a file (`Settings.load`) or from a value tree; in all of
them `unique-ids` is the only key there is, it may be left out, and it must not come twice.
-/

namespace MiddleEnd

open Wire (Value)

/-- How the identifiers of a session are rendered. -/
structure Settings where
  /-- Show stamps behind the names of identifiers. -/
  uniqueIds : Bool := false
deriving DecidableEq, Inhabited

/-- Why settings could not be had. -/
inductive SettingsError where
  /-- The text is not a settings document. -/
  | malformed
  /-- The file at the path is not a settings document. -/
  | malformedFile (path : String)
  /-- There is no file at the path, or it holds no text. -/
  | unreadableFile (path : String)
deriving DecidableEq

namespace SettingsError

/-- The message shown to a user. -/
def message : SettingsError → String
  | malformed => "invalid identifier configuration"
  | malformedFile path => "Failed to parse identifier config " ++ path
  | unreadableFile path => "Failed to read identifier config " ++ path

/-- The code by which tools know a malformed document. -/
def malformedCode : String := "ident::config_parse"

end SettingsError

namespace Settings

/-- The key of the only setting. -/
def uniqueIdsKey : String := "unique-ids"

/-- The settings that the entries of a document give. -/
def ofEntries? : List (String × Bool) → Option Settings
  | [] => some {}
  | [(key, value)] => if key = uniqueIdsKey then some ⟨value⟩ else none
  | _ => none

/-- The settings in a document. -/
def parse (text : String) : Except SettingsError Settings :=
  match (Document.read? text).bind ofEntries? with
  | some settings => .ok settings
  | none => .error .malformed

/-- The settings in a file, given the bytes that were found at its path, if any were. -/
def load (path : String) (contents : Option ByteArray) : Except SettingsError Settings :=
  match contents.bind String.fromUTF8? with
  | some text => (parse text).mapError fun _ => .malformedFile path
  | none => .error (.unreadableFile path)

/-! ## Wire form and description -/

/-- The settings as a value tree. -/
def toValue (s : Settings) : Value :=
  .record [(uniqueIdsKey, .bool s.uniqueIds)]

instance : Readable Settings where
  read
    | .record [] => .ok {}
    | .record [(key, value)] =>
      if key = uniqueIdsKey then (decode value).map Settings.mk else .error .mismatch
    | .list [] => .ok {}
    | .list [value] => (decode value).map Settings.mk
    | _ => .error .mismatch

instance : Outlined Settings where
  outline s := .record "IdentConfig" [("unique_ids", .bool s.uniqueIds)]

end Settings

end MiddleEnd
