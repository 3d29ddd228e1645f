import ReleaseLag.Document.Toml
import ReleaseLag.Settings.Basic

/-!
# `ReleaseLag.Settings.File`: settings from a document

A settings document is TOML with one optional key for each setting and no
others. Keys are judged in the order they stand in, after the whole document
was found to be TOML; the settings are checked at the end.
-/

set_option autoImplicit false

namespace ReleaseLag.Settings

open Document

/-- The keys of a settings document. -/
def keys : List Text :=
  ["database_url".toList, "max_connections".toList, "default_page_size".toList,
    "max_page_size".toList, "query_timeout_secs".toList]

/-- The settings with the value of one key. -/
def setKey (s : Settings) (key : Text) (value : Toml.Value) : Except Mismatch Settings :=
  if key = "database_url".toList then do
    return { s with databaseUrl := some (← value.toText) }
  else if key = "max_connections".toList then do
    return { s with maxConnections := ← value.toInteger .u32 }
  else if key = "default_page_size".toList then do
    return { s with defaultPageSize := ← value.toInteger .u32 }
  else if key = "max_page_size".toList then do
    return { s with maxPageSize := ← value.toInteger .u32 }
  else if key = "query_timeout_secs".toList then do
    return { s with queryTimeoutSecs := some (← value.toInteger .u64) }
  else throw (.unknownField key keys)

/-- The settings that the entries of a document say. -/
def ofEntries (entries : Toml.Entries) : Except Mismatch Settings :=
  entries.foldlM (fun s (key, value) => s.setKey key value) default

/-- The settings of a document, if they can be served. -/
def ofToml (document : Text) : Except Error Settings := do
  match Toml.read? document with
  | none => throw (.config (.document .malformed))
  | some entries =>
    let s ← (ofEntries entries).mapError fun mismatch => .config (.document mismatch)
    s.check
    return s

/-- What is found under the name of a file. One that is there may still be
kept from being read, and then the system says why. -/
inductive FileContent
  | missing
  | unreadable (reason : Text)
  | bytes (content : Bytes)

/-- The text of a file. -/
def FileContent.text : FileContent → Except Error Text
  | missing => .error (.io .missing)
  | unreadable reason => .error (.io (.unreadable reason))
  | bytes content =>
    match Text.ofUtf8? content with
    | some text => .ok text
    | none => .error (.io .notUtf8)

/-- The settings of a file. -/
def load (file : FileContent) : Except Error Settings := do
  ofToml (← file.text)

/-- The settings of the user's own file, or the default ones if there is no
such file. One that is there has to be readable. -/
def loadUser : FileContent → Except Error Settings
  | .missing => .ok default
  | file => load file

end ReleaseLag.Settings
