import TypeAudit.Denylist.Match
import TypeAudit.Node
import TypeAudit.Text.CharClass

/-! # Messages about denied types

A message is a sentence about the place where a denied type is named, followed by the
explanation of the denylist as a second sentence.  An explanation that is blank adds nothing;
any other is trimmed and gets a full stop unless it ends in a mark that ends a sentence. -/

namespace TypeAudit.UsageRule

/-- The places where a type can be named. -/
inductive Place where
  | parentClass
  | interface
  | usedTrait
  | propertyType
  | paramType
  | resultType
  | docParam
  | docResult
  | docVar
deriving DecidableEq, Repr

namespace Place

/-- The stable identifier of the diagnostics for a place. -/
def identifier : Place → String
  | parentClass => "forbidden-extends"
  | interface => "forbidden-implements"
  | usedTrait => "forbidden-trait"
  | propertyType => "forbidden-property-type"
  | paramType => "forbidden-param-type"
  | resultType => "forbidden-return-type"
  | docParam => "forbidden-doc-param-type"
  | docResult => "forbidden-doc-return-type"
  | docVar => "forbidden-doc-var-type"

/-- How a type is used in a place. -/
def usage : Place → Usage
  | parentClass => .structural
  | interface => .structural
  | usedTrait => .structural
  | _ => .typeHint

end Place

def classLabel (name : Option String) : String := name.getD "class@anonymous"

/-- The properties of one declaration, as `C::$a, $b`. -/
def propertyLabel (owner : String) (names : List String) : String :=
  owner ++ "::" ++ ", ".intercalate (names.map ("$" ++ ·))

/-- The name of a function in messages; a method is named with its owner. -/
def functionLabel (owner : Option String) (f : FunctionLike) : String :=
  let name := f.name.getD "\x7bclosure\x7d"
  match f.kind, owner with
  | .method, some owner => "method " ++ owner ++ "::" ++ name ++ "()"
  | .method, none => "method " ++ name ++ "()"
  | .function, _ => "function " ++ name ++ "()"
  | .closure, _ => "anonymous function"
  | .arrow, _ => "arrow function"

/-- The mark ends a sentence. -/
def endsSentence (c : Char) : Bool := c = '.' || c = '!' || c = '?'

/-- The subject as a sentence, followed by the explanation as another. -/
def sentences (subject description : String) : String :=
  let text := Text.trimChars description.toList
  match text.getLast? with
  | none => subject ++ "."
  | some last =>
    if endsSentence last then subject ++ ". " ++ String.ofList text
    else subject ++ ". " ++ String.ofList text ++ "."

end TypeAudit.UsageRule
