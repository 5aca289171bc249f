import TypeAudit.DocType
import TypeAudit.Hierarchy
import TypeAudit.Node
import TypeAudit.Report
import TypeAudit.Text.Printable

/-! # Contexts and rules

A node is visited inside a scope: a file, the enclosing class, trait and function, and the
class hierarchy.  Together with a resolver for doc comments this is the context in which rules
check a node.

A comment is resolved in the node's scope (`Context.resolveDoc`), where the node can name its
own class, trait or function; a comment on a member of a class-like declaration is resolved
against that declaration alone (`Context.resolveMemberDoc`).

A rule checks nodes of the kinds it subscribes to, one at a time, and keeps nothing between
visits: its diagnostics depend on the node and its context alone. -/

namespace TypeAudit

/-- Where a node stands. -/
structure Scope where
  file : String
  className : Option String := none
  traitName : Option String := none
  functionName : Option String := none
  hierarchy : Hierarchy

/-- The host's resolver of doc comments. -/
abbrev DocResolver := DocRequest → ResolvedDoc

/-- Resolved comments by their text. -/
structure DocTable where
  docs : List (String × ResolvedDoc) := []
deriving Repr

namespace DocTable

/-- Register a comment; a later registration of the same text wins. -/
def register (table : DocTable) (comment : String) (doc : ResolvedDoc) : DocTable :=
  ⟨(comment, doc) :: table.docs⟩

/-- The tags of a registered comment; any other comment has none. -/
def resolver (table : DocTable) : DocResolver := fun request =>
  (table.docs.lookup request.comment).getD {}

end DocTable

/-- What a rule sees of a node's surroundings. -/
structure Context where
  scope : Scope
  docs : DocResolver

namespace Context

/-- Have a comment resolved. -/
def resolve (ctx : Context) (request : DocRequest) : Traced ResolvedDoc :=
  ⟨ctx.docs request, [.resolve request]⟩

@[simp] theorem value_resolve (ctx : Context) (request : DocRequest) :
    (ctx.resolve request).value = ctx.docs request := rfl

@[simp] theorem requests_resolve (ctx : Context) (request : DocRequest) :
    (ctx.resolve request).requests = [request] := rfl

/-- Resolve a comment in the node's scope; a name that is given stands before the scope's. -/
def resolveDoc (ctx : Context) (className traitName functionName : Option String)
    (comment : String) : Traced ResolvedDoc :=
  ctx.resolve
    { file := ctx.scope.file
      className := className <|> ctx.scope.className
      traitName := traitName <|> ctx.scope.traitName
      functionName := functionName <|> ctx.scope.functionName
      comment }

/-- Resolve a comment on a member of a class-like declaration. -/
def resolveMemberDoc (ctx : Context) (className traitName : Option String) (comment : String) :
    Traced ResolvedDoc :=
  ctx.resolve { file := ctx.scope.file, className, traitName, functionName := none, comment }

def renderName : Option String → String
  | none => "None"
  | some name => "Some(" ++ Text.quote name ++ ")"

/-- A one-line description for logs and debugging. -/
def render (ctx : Context) : String :=
  "NodeContext \x7b file: " ++ Text.quote ctx.scope.file
    ++ ", class: " ++ renderName ctx.scope.className
    ++ ", function: " ++ renderName ctx.scope.functionName ++ ", .. \x7d"

end Context

/-- A rule of an analysis. -/
structure Rule where
  name : String
  description : String := ""
  kinds : List NodeKind
  check : Context → Node → Traced (List Diagnostic)

end TypeAudit
