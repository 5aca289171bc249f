import TypeAudit.DocComment
import TypeAudit.TypeExpr

/-! # Visited nodes

The host walks the source and hands over class-like declarations, function-like declarations
and documented statements, each with the parts in which a type can be named. -/

namespace TypeAudit

/-- The kinds of class-like declarations. -/
inductive ClassKind where
  /-- A class in the narrow sense. -/
  | proper
  | interface
  | trait
  | enum
deriving DecidableEq, Repr

/-- A property declaration; one declaration can introduce several properties. -/
structure Property where
  names : List String
  type : Option TypeExpr := none
  doc : Option DocComment := none
  line : Nat
deriving Repr

/-- A class-like declaration; without a name it is anonymous. -/
structure ClassLike where
  kind : ClassKind
  name : Option String
  line : Nat
  parents : List NameRef := []
  interfaces : List NameRef := []
  traits : List NameRef := []
  properties : List Property := []
deriving Repr

/-- The kinds of function-like declarations. -/
inductive FunctionKind where
  | function
  | method
  | closure
  | arrow
deriving DecidableEq, Repr

/-- A declared parameter. -/
structure Param where
  name : String
  type : Option TypeExpr := none
  line : Nat
deriving Repr

/-- A function-like declaration. -/
structure FunctionLike where
  kind : FunctionKind
  name : Option String
  line : Nat
  params : List Param := []
  result : Option TypeExpr := none
  doc : Option DocComment := none
deriving Repr

/-- A statement with a doc comment. -/
structure Statement where
  doc : DocComment
  line : Nat
deriving Repr

/-- What the host hands over for checking. -/
inductive Node where
  | classLike (declaration : ClassLike)
  | functionLike (declaration : FunctionLike)
  | statement (declaration : Statement)
deriving Repr

/-- The categories of nodes that a rule can subscribe to. -/
inductive NodeKind where
  | classLike
  | functionLike
  | statement
deriving DecidableEq, Repr

namespace Node

/-- The category of a node. -/
def kind : Node → NodeKind
  | classLike _ => .classLike
  | functionLike _ => .functionLike
  | statement _ => .statement

def line : Node → Nat
  | classLike declaration => declaration.line
  | functionLike declaration => declaration.line
  | statement declaration => declaration.line

end Node

end TypeAudit
