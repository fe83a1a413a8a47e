import SidecarProxy.Text.Fields

/-!
# Module identifiers

A module id is a name, a hyphen and a version, such as `mod-foo-1.2.0` or
`mod-foo-1.2.0-SNAPSHOT.42`.  The version is what follows the first hyphen that
leaves a name before it and a version after it.
-/

namespace SidecarProxy
namespace Catalog
namespace ModuleId

open Text

/-- The release part of a version: all before its first `-` or `+`. -/
def release (version : List Char) : List Char :=
  version.takeWhile fun c => c != '-' && c != '+'

/-- A non-empty run of ASCII digits. -/
def isNumber (cs : List Char) : Bool :=
  !cs.isEmpty && cs.all Char.isDigit

/-- A version: three numbers joined by dots, and then possibly more after a `-` or `+`. -/
def isVersion (version : List Char) : Bool :=
  let numbers := fields '.' (release version)
  numbers.length == 3 && numbers.all isNumber

/--
The name in front of the first hyphen that a version follows; `started` holds once
the name has a character.
-/
def nameFrom (started : Bool) : List Char → Option (List Char)
  | [] => none
  | c :: rest =>
    if c == '-' && started && isVersion rest then some []
    else (nameFrom true rest).map (c :: ·)

/-- The name part of a module id, or nothing when the text is not an id. -/
def name? (value : String) : Option String :=
  (nameFrom false value.toList).map String.ofList

end ModuleId

/-- Whether text is a module id. -/
def isModuleId (value : String) : Bool :=
  (ModuleId.name? value).isSome

end Catalog
end SidecarProxy
