import SidecarProxy.Settings.Check
import SidecarProxy.Settings.Decode
import SidecarProxy.Toml.Reader

/-!
# Loading settings

Settings are loaded from a document, which may be the content of a file.
-/

namespace SidecarProxy
namespace Settings

/-- Why settings cannot be loaded. -/
inductive LoadError where
  /-- There is no file. -/
  | notFound
  /-- The content of the file is no text. -/
  | notText
  /-- The text is no document of settings. -/
  | malformed
  | invalid (problems : List Problem)
  deriving DecidableEq, Repr

/-- The wording of problems. -/
def problemsMessage (problems : List Problem) : String :=
  "Validation failed: " ++
    ", ".intercalate (problems.map fun p => s!"{p.field}: {p.fault.message}")

/-- The wording of a failure. -/
def LoadError.message : LoadError → String
  | .notFound => "There are no settings to read"
  | .notText => "The settings are no text"
  | .malformed => "The settings cannot be parsed"
  | .invalid problems => problemsMessage problems

/-- The settings that a document describes, before any check. -/
def read? (text : String) : Option Settings :=
  (Toml.parse text).bind (Decode.settings .ignored)

/-- Loads settings from a document. -/
def ofText (text : String) : Except LoadError Settings :=
  match read? text with
  | none => .error .malformed
  | some s => s.validate.mapError .invalid

/-- Loads settings from the bytes of a file, if there is one. -/
def ofFile (content : Option (List UInt8)) : Except LoadError Settings :=
  match content with
  | none => .error .notFound
  | some bytes =>
    match String.fromUTF8? ⟨bytes.toArray⟩ with
    | none => .error .notText
    | some text => ofText text

end Settings
end SidecarProxy
