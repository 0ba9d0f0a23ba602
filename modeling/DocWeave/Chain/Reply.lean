import DocWeave.Json.Fields

/-! # What stages give back

A stage gives back a text, a record made to carry one, or a mapping or an object with a content; it
may also give back nothing, or a value that no content can be had from.
-/

namespace DocWeave

/-- What a stage gives back. -/
inductive StageReply where
  | nothing
  | text (content : Text)
  /-- The record of a stage's result, which may be empty. -/
  | record (content : Option Text)
  /-- A mapping, with what its member `content` holds if its type has one. -/
  | mapping (fields : List (Text × Json)) (member : Option Json)
  /-- A value of any other type, with what its member `content` holds if it has one. -/
  | object (member : Option Json)
  deriving Repr

/-- The content that a reply carries, if it carries a text. The field of a mapping comes before its
member. -/
def StageReply.content? : StageReply → Option Text
  | nothing => none
  | text content => some content
  | record content => content
  | mapping fields member =>
    ((fields.lookup ("content" : Text)).bind Json.text?).or (member.bind Json.text?)
  | object member => member.bind Json.text?

end DocWeave
