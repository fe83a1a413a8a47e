/-!
# Fields of text

Text is cut at every occurrence of a separator.  There is always one field more
than there are separators, so empty text has one empty field.
-/

namespace SidecarProxy
namespace Text

/-- The fields of a list of characters, cut at every character that `cuts` holds of. -/
def fieldsWhere (cuts : Char → Bool) : List Char → List (List Char)
  | [] => [[]]
  | c :: rest =>
    if cuts c then [] :: fieldsWhere cuts rest
    else
      match fieldsWhere cuts rest with
      | [] => [[c]]
      | field :: more => (c :: field) :: more

/-- The fields between separators. -/
def fields (separator : Char) (cs : List Char) : List (List Char) :=
  fieldsWhere (· == separator) cs

/-- The fields of text between separators. -/
def split (separator : Char) (s : String) : List String :=
  (fields separator s.toList).map String.ofList

theorem fieldsWhere_ne_nil (cuts : Char → Bool) (cs : List Char) :
    fieldsWhere cuts cs ≠ [] := by
  cases cs with
  | nil => simp [fieldsWhere]
  | cons c rest =>
    unfold fieldsWhere
    split
    · simp
    · split <;> simp

end Text
end SidecarProxy
