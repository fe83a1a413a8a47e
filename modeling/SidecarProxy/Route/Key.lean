import SidecarProxy.Catalog.Basic
import SidecarProxy.Text.Blank

/-!
# Bucket keys

An entry is filed under the literal part of its pattern, cut back to whole
segments, or under its literal path.  A request probes its own path and then
every prefix of it that ends just before a slash, the longest first.
-/

namespace SidecarProxy
namespace Route

open Catalog Text

/-- What stands before the last slash, if there is a slash. -/
def beforeLastSlash (cs : List Char) : Option (List Char) :=
  match cs.reverse.dropWhile (· != '/') with
  | [] => none
  | _ :: rest => some rest.reverse

/-- The characters that start the variable part of a pattern. -/
def isPlaceholder (c : Char) : Bool :=
  c == '{' || c == '*'

/-- The literal part of a pattern before its first placeholder, cut back to a slash. -/
def patternKeyChars (pattern : List Char) : List Char :=
  if pattern.any isPlaceholder then
    match beforeLastSlash (pattern.takeWhile (!isPlaceholder ·)) with
    | none | some [] => ['/']
    | some key => key
  else pattern

/-- The key of a pattern. -/
def patternKey (pattern : String) : String :=
  String.ofList (patternKeyChars pattern.toList)

/-- Trimmed text that starts with a slash. -/
def rooted? (text : String) : Option String :=
  let trimmed := trim text
  if trimmed.toList.head? = some '/' then some trimmed else none

/-- The key under which an endpoint is filed: that of its pattern, or else its literal path. -/
def endpointKey? (e : Endpoint) : Option String :=
  match e.pathPattern.bind rooted? with
  | some pattern => some (patternKey pattern)
  | none => e.path.bind rooted?

/-- The key probed after `key`: the key without its last segment. -/
def parentKeyChars (key : List Char) : Option (List Char) :=
  if key = ['/'] then none
  else
    match beforeLastSlash key with
    | none => none
    | some [] => some ['/']
    | some parent => some parent

theorem length_beforeLastSlash_lt {cs before : List Char}
    (h : beforeLastSlash cs = some before) : before.length < cs.length := by
  unfold beforeLastSlash at h
  split at h
  · cases h
  · next c rest heq =>
    cases h
    have hle : (cs.reverse.dropWhile (· != '/')).length ≤ cs.reverse.length :=
      (List.dropWhile_sublist _).length_le
    rw [heq] at hle
    simp at hle ⊢
    omega

theorem beforeLastSlash_singleton {c : Char} (h : c ≠ '/') : beforeLastSlash [c] = none := by
  simp [beforeLastSlash, List.dropWhile, h]

theorem length_parentKeyChars_lt {key parent : List Char}
    (h : parentKeyChars key = some parent) : parent.length < key.length := by
  unfold parentKeyChars at h
  split at h
  · cases h
  · next hne =>
    split at h
    · cases h
    · next heq =>
      cases h
      match key with
      | [] => simp [beforeLastSlash] at heq
      | [c] =>
        have hc : c ≠ '/' := fun hc => hne (by rw [hc])
        rw [beforeLastSlash_singleton hc] at heq
        cases heq
      | _ :: _ :: _ => simp
    · next heq =>
      cases h
      exact length_beforeLastSlash_lt heq

/-- The keys that a lookup probes, from the given one on. -/
def probesFrom (key : List Char) : List (List Char) :=
  match _h : parentKeyChars key with
  | none => [key]
  | some parent => key :: probesFrom parent
  termination_by key.length
  decreasing_by exact length_parentKeyChars_lt ‹_›

/-- The keys that a lookup of a path probes, in order. -/
def probes (path : String) : List String :=
  (probesFrom path.toList).map String.ofList

end Route
end SidecarProxy
