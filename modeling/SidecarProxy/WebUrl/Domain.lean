import SidecarProxy.Text.Fields
import SidecarProxy.WebUrl.Label

/-!
# Names of hosts

A name is brought to small letters and to its normal form, and then to ASCII,
label by label: a label with other characters is written in their stead as its
code.  A label that is written so already has to be the code of such a label.
-/

namespace SidecarProxy
namespace WebUrl

open Text Unicode

/-- The labels of a name, when each of its characters may occur. -/
def labels? (cs : List Char) : Option (List (List Char)) := do
  let cs := normalize (← replaceChars cs)
  if cs.any isForbidden then none
  (fields '.' cs).mapM readLabel?

/-- A name in ASCII. -/
def asciiName? (cs : List Char) : Option (List Char) := do
  let labels ← labels? cs
  if labels.all isLabel && directionsAllowed labels then
    some (List.intercalate ['.'] (labels.map writeLabel))
  else none

end WebUrl
end SidecarProxy
