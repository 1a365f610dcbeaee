import RadarConform.Location
import RadarConform.Value
import RadarConform.Version

/-!
# Events

Reading, resolving, evaluating and comparing report what they do as events.  An event is a value;
a computation that reports keeps its events beside its outcome, also when it fails.

* `Event`: what can be reported, with `Event.level`, `Event.message` and `Event.fields`.
* `Logged`: an outcome or an error, with the events up to it.
-/

namespace RadarConform

/-- How important an event is, the most important first. -/
inductive Level where
  | warn
  | info
  | debug
deriving DecidableEq

namespace Level

/-- The name of a level. -/
def name : Level → String
  | warn => "WARN"
  | info => "INFO"
  | debug => "DEBUG"

/-- The place of a level in the order of importance. -/
def rank : Level → Nat
  | warn => 0
  | info => 1
  | debug => 2

end Level

/-- What can be reported. -/
inductive Event where
  | checkingRule (rule : Location) (mandatory : Bool) (constraint : String) (hits : Nat)
  | undescribedNode (node : Location)
  | evaluated (constraint : String) (value : AttributeValue) (matched : Bool)
  | malformedSource (source reason : String)
  | compared (rules nodes violations : Nat)
  | resolvedTable (path : String) (version : Version) (product : String) (overridden : Bool)
  | loadedTable (path : String) (rules mandatory : Nat)
  | loadedSnapshot (path format : String) (nodes : Nat)
  | unconventionalName (path : String)
  | tableAbsent (path : String)
  | versionIgnored
  | versionsDiffer (file : String) (declared table : Version)
  | checkingFile (file table : String) (nodes rules : Nat)

/-- The value of a field of an event. -/
inductive FieldValue where
  | text (s : String)
  | count (n : Nat)
  | flag (b : Bool)

namespace Event

/-- How important an event is. -/
def level : Event → Level
  | checkingRule .. => .info
  | undescribedNode .. => .info
  | evaluated .. => .debug
  | malformedSource .. => .debug
  | compared .. => .debug
  | resolvedTable .. => .debug
  | loadedTable .. => .debug
  | loadedSnapshot .. => .debug
  | unconventionalName .. => .warn
  | tableAbsent .. => .warn
  | versionIgnored => .warn
  | versionsDiffer .. => .warn
  | checkingFile .. => .info

/-- What an event says. -/
def message : Event → String
  | checkingRule .. => "checking rule"
  | undescribedNode .. => "node not described by the rule table"
  | evaluated .. => "evaluated constraint"
  | malformedSource .. => "malformed source identifier"
  | compared .. => "comparison finished"
  | resolvedTable .. => "resolved rule table"
  | loadedTable .. => "loaded rule table"
  | loadedSnapshot .. => "loaded layout snapshot"
  | unconventionalName .. =>
    "rule table name does not follow the naming convention; revision and product unknown"
  | tableAbsent .. => "resolved table does not exist"
  | versionIgnored => "--standard-version is ignored when --table names the table"
  | versionsDiffer .. => "file declares a different standard version than its table"
  | checkingFile .. => "checking file"

/-- What an event speaks about. -/
def fields : Event → List (String × FieldValue)
  | checkingRule rule mandatory constraint hits =>
    [("rule", .text rule.text), ("mandatory", .flag mandatory),
      ("constraint", .text constraint), ("matches", .count hits)]
  | undescribedNode node => [("node", .text node.text)]
  | evaluated constraint value matched =>
    [("constraint", .text constraint), ("value", .text value.shown), ("matched", .flag matched)]
  | malformedSource source reason => [("source", .text source), ("reason", .text reason)]
  | compared rules nodes violations =>
    [("rules", .count rules), ("nodes", .count nodes), ("violations", .count violations)]
  | resolvedTable path version product overridden =>
    [("path", .text path), ("version", .text version.text), ("product", .text product),
      ("overridden", .flag overridden)]
  | loadedTable path rules mandatory =>
    [("path", .text path), ("entries", .count rules), ("mandatory", .count mandatory)]
  | loadedSnapshot path format nodes =>
    [("path", .text path), ("format", .text format), ("nodes", .count nodes)]
  | unconventionalName path => [("path", .text path)]
  | tableAbsent path => [("path", .text path)]
  | versionIgnored => []
  | versionsDiffer file declared table =>
    [("file", .text file), ("declared", .text declared.text), ("table", .text table.text)]
  | checkingFile file table nodes rules =>
    [("file", .text file), ("table", .text table), ("nodes", .count nodes),
      ("rules", .count rules)]

end Event

/-- An outcome or an error, with the events that were reported on the way to it. -/
structure Logged (ε α : Type) where
  events : List Event
  outcome : Except ε α

namespace Logged

variable {ε ε' α β : Type}

/-- An outcome without events. -/
def ofExcept (outcome : Except ε α) : Logged ε α := { events := [], outcome }

/-- One event. -/
def report (e : Event) : Logged ε Unit := { events := [e], outcome := .ok () }

/-- One event, if a condition holds. -/
def reportIf (condition : Bool) (e : Event) : Logged ε Unit :=
  { events := if condition then [e] else [], outcome := .ok () }

/-- One computation after another; an error ends both. -/
def bind (x : Logged ε α) (f : α → Logged ε β) : Logged ε β :=
  match x.outcome with
  | .error e => { events := x.events, outcome := .error e }
  | .ok a => { events := x.events ++ (f a).events, outcome := (f a).outcome }

instance : Monad (Logged ε) where
  pure a := { events := [], outcome := .ok a }
  bind := bind

instance : MonadLift (Except ε) (Logged ε) := ⟨ofExcept⟩

/-- The same computation with its errors put in other words. -/
def mapError (f : ε → ε') (x : Logged ε α) : Logged ε' α :=
  { events := x.events, outcome := x.outcome.mapError f }

@[simp] theorem outcome_pure (a : α) : (pure a : Logged ε α).outcome = .ok a := rfl

@[simp] theorem outcome_ofExcept (x : Except ε α) : (ofExcept x).outcome = x := rfl

@[simp] theorem outcome_report (e : Event) : (report e : Logged ε Unit).outcome = .ok () := rfl

@[simp] theorem outcome_reportIf (c : Bool) (e : Event) :
    (reportIf c e : Logged ε Unit).outcome = .ok () := rfl

/-- The outcome of two computations is that of the first, handed on to the second. -/
@[simp] theorem outcome_bind (x : Logged ε α) (f : α → Logged ε β) :
    (x >>= f).outcome = x.outcome.bind fun a => (f a).outcome := by
  change (bind x f).outcome = _
  unfold bind
  cases x.outcome <;> rfl

@[simp] theorem outcome_mapError (f : ε → ε') (x : Logged ε α) :
    (x.mapError f).outcome = x.outcome.mapError f := rfl

end Logged

end RadarConform
