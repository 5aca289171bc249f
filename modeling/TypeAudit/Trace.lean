/-! # Accounts of a computation

A computation here returns a value and an account of what it did on the way: the questions it
put to the class hierarchy, the comments it had resolved, and its log.  `Traced` pairs the two,
and later steps append to the account of the earlier ones. -/

namespace TypeAudit

/-- A question to the class hierarchy. -/
inductive Query where
  | hasClass (name : String)
  | ancestors (name : String)
deriving DecidableEq, Repr

/-- A comment to resolve, and the declarations that enclose it. -/
structure DocRequest where
  file : String
  className : Option String
  traitName : Option String
  functionName : Option String
  comment : String
deriving DecidableEq, Repr

/-- The severity of a log entry. -/
inductive LogLevel where
  | trace
  | debug
  | info
deriving DecidableEq, Repr

def LogLevel.text : LogLevel → String
  | trace => "TRACE"
  | debug => "DEBUG"
  | info => "INFO"

/-- What is worth a log entry. -/
inductive LogEntry where
  /-- A rule was set up with so many denied types. -/
  | configured (rule : String) (count : Nat)
  /-- An analyzer was loaded from a file. -/
  | loaded (rules : Nat) (path : String)
  /-- An analysis began. -/
  | started (rules : Nat)
  /-- A disabled rule was passed over. -/
  | skipped (rule : String)
  /-- A name was denied because of an ancestor. -/
  | inherited (name ancestor : String)
  /-- A rule had something to report on a node. -/
  | reported (rule : String) (count : Nat) (file : String)
  /-- An analysis ended. -/
  | completed (violations nodes : Nat)
deriving DecidableEq, Repr

namespace LogEntry

def level : LogEntry → LogLevel
  | configured .. => .debug
  | loaded .. => .info
  | started .. => .info
  | skipped .. => .debug
  | inherited .. => .trace
  | reported .. => .debug
  | completed .. => .info

def message : LogEntry → String
  | configured rule count => rule ++ ": " ++ toString count ++ " forbidden type(s) configured"
  | loaded rules path => "Loaded " ++ toString rules ++ " rule(s) from " ++ path
  | started rules => "Starting analysis with " ++ toString rules ++ " rule(s)"
  | skipped rule => "Skipping disabled rule: " ++ rule
  | inherited name ancestor => name ++ " matched as subclass of " ++ ancestor
  | reported rule count file =>
    rule ++ " reported " ++ toString count ++ " diagnostic(s) in " ++ file
  | completed violations nodes =>
    "Analysis complete: " ++ toString violations ++ " violations in " ++ toString nodes ++ " nodes"

/-- An entry as one line of a log. -/
def render (entry : LogEntry) : String := entry.level.text ++ " " ++ entry.message

end LogEntry

/-- One step of an account. -/
inductive Event where
  | query (q : Query)
  | resolve (request : DocRequest)
  | log (entry : LogEntry)
deriving DecidableEq, Repr

namespace Event

/-- The question asked in this step, if it is one. -/
def query? : Event → Option Query
  | query q => some q
  | _ => none

/-- The comment resolved in this step, if it is one. -/
def request? : Event → Option DocRequest
  | resolve request => some request
  | _ => none

/-- The log entry written in this step, if it is one. -/
def entry? : Event → Option LogEntry
  | log entry => some entry
  | _ => none

end Event

/-- A value and the account of how it was obtained. -/
structure Traced (α : Type) where
  value : α
  events : List Event
deriving Repr

namespace Traced

variable {α β : Type}

instance : Monad Traced where
  pure a := ⟨a, []⟩
  bind t f := ⟨(f t.value).value, t.events ++ (f t.value).events⟩

/-- Record one step. -/
def note (event : Event) : Traced Unit := ⟨(), [event]⟩

/-- Write to the log. -/
def log (entry : LogEntry) : Traced Unit := note (.log entry)

/-- One list after the other, and one account after the other. -/
instance : Append (Traced (List α)) where
  append s t := ⟨s.value ++ t.value, s.events ++ t.events⟩

/-- The results of `f` on all elements in order, joined. -/
def gather (f : α → Traced (List β)) : List α → Traced (List β)
  | [] => ⟨[], []⟩
  | a :: as => f a ++ gather f as

def queries (t : Traced α) : List Query := t.events.filterMap Event.query?

def requests (t : Traced α) : List DocRequest := t.events.filterMap Event.request?

def entries (t : Traced α) : List LogEntry := t.events.filterMap Event.entry?

@[simp] theorem value_pure (a : α) : (pure a : Traced α).value = a := rfl

@[simp] theorem events_pure (a : α) : (pure a : Traced α).events = [] := rfl

@[simp] theorem value_bind (t : Traced α) (f : α → Traced β) :
    (t >>= f).value = (f t.value).value := rfl

@[simp] theorem events_bind (t : Traced α) (f : α → Traced β) :
    (t >>= f).events = t.events ++ (f t.value).events := rfl

@[simp] theorem value_append (s t : Traced (List α)) : (s ++ t).value = s.value ++ t.value := rfl

@[simp] theorem events_append (s t : Traced (List α)) :
    (s ++ t).events = s.events ++ t.events := rfl

@[simp] theorem value_gather (f : α → Traced (List β)) (as : List α) :
    (gather f as).value = as.flatMap (fun a => (f a).value) := by
  induction as with
  | nil => rfl
  | cons a as ih => simp [gather, ih]

@[simp] theorem events_gather (f : α → Traced (List β)) (as : List α) :
    (gather f as).events = as.flatMap (fun a => (f a).events) := by
  induction as with
  | nil => rfl
  | cons a as ih => simp [gather, ih]

@[simp] theorem value_log (entry : LogEntry) : (log entry).value = () := rfl

@[simp] theorem queries_log (entry : LogEntry) : (log entry).queries = [] := rfl

@[simp] theorem queries_pure (a : α) : (pure a : Traced α).queries = [] := rfl

@[simp] theorem queries_bind (t : Traced α) (f : α → Traced β) :
    (t >>= f).queries = t.queries ++ (f t.value).queries := by
  simp [queries]

@[simp] theorem requests_log (entry : LogEntry) : (log entry).requests = [] := rfl

@[simp] theorem requests_pure (a : α) : (pure a : Traced α).requests = [] := rfl

@[simp] theorem requests_bind (t : Traced α) (f : α → Traced β) :
    (t >>= f).requests = t.requests ++ (f t.value).requests := by
  simp [requests]

@[simp] theorem requests_append (s t : Traced (List α)) :
    (s ++ t).requests = s.requests ++ t.requests := by
  simp [requests]

@[simp] theorem requests_gather (f : α → Traced (List β)) (as : List α) :
    (gather f as).requests = as.flatMap (fun a => (f a).requests) := by
  unfold requests
  rw [events_gather, List.filterMap_flatMap]

@[simp] theorem entries_log (entry : LogEntry) : (log entry).entries = [entry] := rfl

@[simp] theorem entries_pure (a : α) : (pure a : Traced α).entries = [] := rfl

@[simp] theorem entries_bind (t : Traced α) (f : α → Traced β) :
    (t >>= f).entries = t.entries ++ (f t.value).entries := by
  simp [entries]

@[simp] theorem entries_append (s t : Traced (List α)) :
    (s ++ t).entries = s.entries ++ t.entries := by
  simp [entries]

end Traced

end TypeAudit
