import TypeAudit.Text.CharClass
import TypeAudit.Text.Reader

/-! # Doc comments and the lines of their tags

The host resolves the tags of a comment but does not say where they stand.  `tagLine` recovers
the line of a tag from the text: the first line on which the tag stands at the end of a word
and, for a tag of a variable, on which the variable is named after the tag.  A tag that is not
found is taken to stand on the first line of the comment.

A line ends at a line feed, and one carriage return right before the line feed belongs to the
line end.  Nothing follows the last line feed: a text that ends in one has no empty last line,
and the empty text has no line at all.  A carriage return elsewhere is an ordinary character. -/

namespace TypeAudit

/-- The lines of a text, without their line ends. -/
def Text.lines : List Char → List (List Char)
  | [] => []
  | '\n' :: cs => [] :: lines cs
  | '\r' :: '\n' :: cs => [] :: lines cs
  | c :: cs =>
    match lines cs with
    | [] => [[c]]
    | line :: rest => (c :: line) :: rest

/-- The doc tags that can refer to a type. -/
inductive DocTag where
  | var
  | param
  | result
deriving DecidableEq, Repr

def DocTag.text : DocTag → String
  | var => "@var"
  | param => "@param"
  | result => "@return"

/-- A raw doc comment. -/
structure DocComment where
  text : String
  startLine : Nat
deriving DecidableEq, Repr

namespace DocComment

/-- No word character stands at the front. -/
def endsWord : List Char → Bool
  | [] => true
  | c :: _ => !Text.isWord c

/-- What follows the first occurrence of `tag` that ends a word. -/
def afterTag? (tag : List Char) : List Char → Option (List Char)
  | [] => none
  | c :: cs =>
    match Text.expectAll tag (c :: cs) with
    | some rest => if endsWord rest then some rest else afterTag? tag cs
    | none => afterTag? tag cs

/-- The variables named in a line: the longest run of word characters after a `$`, then those
named after that run. -/
def namedVariables : List Char → List (List Char)
  | [] => []
  | c :: cs =>
    if c = '$' then
      match cs.takeWhile Text.isWord with
      | [] => namedVariables cs
      | word => word :: namedVariables (cs.dropWhile Text.isWord)
    else namedVariables cs
termination_by line => line.length
decreasing_by
  all_goals simp only [List.length_cons]
  · omega
  · exact Nat.lt_succ_of_le (List.dropWhile_sublist _).length_le
  · omega

/-- The line holds the tag and, if a variable is given, names it after the tag. -/
def lineHasTag (tag : DocTag) (variableName : Option String) (line : List Char) : Bool :=
  match afterTag? tag.text.toList line, variableName with
  | none, _ => false
  | some _, none => true
  | some rest, some name => (namedVariables rest).contains name.toList

/-- The line of a tag, or of a variable's tag. -/
def tagLine (doc : DocComment) (tag : DocTag) (variableName : Option String) : Nat :=
  match (Text.lines doc.text.toList).findIdx? (lineHasTag tag variableName) with
  | some offset => doc.startLine + offset
  | none => doc.startLine

end DocComment

end TypeAudit
