import TypeAudit.Trace

/-! # Class hierarchies

What a host knows about its classes: whether it knows a class at all, and the ancestors of a
class as a list.  A class is a *subclass* of the classes among its ancestors.  Each question
put to a host is recorded, so that the account of a check says what was asked and in which
order; asking for a subclass asks for the ancestors. -/

namespace TypeAudit

/-- A host's view of its classes. -/
structure Hierarchy where
  hasClass : String → Bool
  ancestors : String → List String

namespace Hierarchy

/-- `name` strictly descends from `ancestor`. -/
def isSubclass (h : Hierarchy) (name ancestor : String) : Bool :=
  (h.ancestors name).contains ancestor

def askHasClass (h : Hierarchy) (name : String) : Traced Bool :=
  ⟨h.hasClass name, [.query (.hasClass name)]⟩

def askIsSubclass (h : Hierarchy) (name ancestor : String) : Traced Bool :=
  ⟨h.isSubclass name ancestor, [.query (.ancestors name)]⟩

@[simp] theorem value_askHasClass (h : Hierarchy) (name : String) :
    (h.askHasClass name).value = h.hasClass name := rfl

@[simp] theorem queries_askHasClass (h : Hierarchy) (name : String) :
    (h.askHasClass name).queries = [.hasClass name] := rfl

@[simp] theorem requests_askHasClass (h : Hierarchy) (name : String) :
    (h.askHasClass name).requests = [] := rfl

@[simp] theorem entries_askHasClass (h : Hierarchy) (name : String) :
    (h.askHasClass name).entries = [] := rfl

@[simp] theorem value_askIsSubclass (h : Hierarchy) (name ancestor : String) :
    (h.askIsSubclass name ancestor).value = h.isSubclass name ancestor := rfl

@[simp] theorem queries_askIsSubclass (h : Hierarchy) (name ancestor : String) :
    (h.askIsSubclass name ancestor).queries = [.ancestors name] := rfl

@[simp] theorem requests_askIsSubclass (h : Hierarchy) (name ancestor : String) :
    (h.askIsSubclass name ancestor).requests = [] := rfl

end Hierarchy

end TypeAudit
