import Acceptance.Text

/-!
# Tags

Labels on features, scenarios, hooks and step definitions. Two spellings name the same tag when they
agree after blanks around them and one leading `@` are removed.
-/

namespace Acceptance.Tag

/-- A tag without the blanks around it and without one leading `@`. Blanks after the `@` stay. -/
def normalizeChars (tag : List Char) : List Char :=
  match Text.trim tag with
  | '@' :: name => name
  | name => name

/-- The normal form of a tag. -/
def normalize (tag : String) : String := String.ofList (normalizeChars tag.toList)

/-- Whether two lists of tags share a tag. -/
def intersects (filter active : List String) : Bool :=
  filter.any fun wanted => active.any fun tag => normalize tag == normalize wanted

end Acceptance.Tag
