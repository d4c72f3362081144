import ClaimGrid.Board.Request
import ClaimGrid.Json.Record
import ClaimGrid.Settings.Error

/-!
# Events of a world

Every call to a world that finds or changes something is reported as one event: what happened, and
to which object or with which error.

## Main definitions

* `WorldError`: a failure of one of the parts of a world.
* `EventKind`: what happened.
* `Event`: a record of one call.
-/

namespace ClaimGrid

/-- Why a call to a world failed. -/
inductive WorldError where
  /-- The board refused. -/
  | board (cause : BoardError)
  /-- The feed refused. -/
  | feed (cause : FeedError)
  /-- The settings were refused. -/
  | settings (cause : SettingsError)
  deriving DecidableEq

namespace WorldError

/-- The sentence for a cause. -/
def message : WorldError → String
  | board cause => cause.message
  | feed cause => cause.message
  | settings cause => cause.message

/-- The kind of a failure of a world. -/
def kind : WorldError → FaultKind
  | board cause => cause.kind
  | feed cause => cause.kind
  | settings cause => cause.kind

/-- The cause as it is shown to a developer. -/
def outline : WorldError → Outline
  | board cause => .tuple "Playground" [cause.outline]
  | feed cause => .tuple "Broadcast" [cause.outline]
  | settings cause => .tuple "Config" [cause.outline]

end WorldError

/-- What happened. -/
inductive EventKind where
  /-- An object entered the board. -/
  | created
  /-- An object moved. -/
  | updated
  /-- An object left the board. -/
  | deleted
  /-- An object was looked up. -/
  | checked
  /-- A call failed. -/
  | error
  deriving DecidableEq

namespace EventKind

/-- The kinds in the order of their definition. -/
def all : List EventKind := [created, updated, deleted, checked, error]

/-- The lower-case name. -/
def name : EventKind → String
  | created => "created"
  | updated => "updated"
  | deleted => "deleted"
  | checked => "checked"
  | error => "error"

/-- The name with a capital letter. -/
def title : EventKind → String
  | created => "Created"
  | updated => "Updated"
  | deleted => "Deleted"
  | checked => "Checked"
  | error => "Error"

/-- The kind with a given name. -/
def ofName? (text : String) : Option EventKind := all.find? fun k => k.name == text

/-- The kind that reports an effect on an object. -/
def ofEffect : Effect → EventKind
  | .create => created
  | .update => updated
  | .delete => deleted

/-- A kind as its name. -/
def toJson (k : EventKind) : Json := .text (some k.name)

/-- The kind that a word names. -/
def ofJson? (j : Json) : Option EventKind := j.ofChoices? (all.map fun k => (k.name, k))

end EventKind

/-- What an event is about. -/
inductive Payload (α : Type) where
  /-- The object involved. -/
  | object (o : α)
  /-- The failure. -/
  | failure (e : WorldError)
  deriving DecidableEq

/-- A record of one call. -/
structure Event (α : Type) where
  /-- What happened. -/
  kind : EventKind
  /-- What it happened to. -/
  payload : Payload α
  deriving DecidableEq

variable {α : Type}

/-- What an event is about, as it is shown to a developer. -/
def Payload.outline (showObject : α → Outline) : Payload α → Outline
  | object o => .tuple "Object" [showObject o]
  | failure e => .tuple "Error" [e.outline]

namespace Event

/-- An event about an object. -/
def ofObject (k : EventKind) (o : α) : Event α := ⟨k, .object o⟩

/-- An event about a failure. -/
def ofError (e : WorldError) : Event α := ⟨.error, .failure e⟩

/-- The object of an event, unless it reports a failure. -/
def object? (e : Event α) : Option α :=
  match e.payload with
  | .object o => some o
  | .failure _ => none

/-- The failure that an event reports, if it reports one. -/
def error? (e : Event α) : Option WorldError :=
  match e.payload with
  | .object _ => none
  | .failure err => some err

/-- An event as it is shown to a developer. -/
def outline (showObject : α → Outline) (e : Event α) : Outline :=
  .record "Event" [("kind", .bare e.kind.title), ("payload", e.payload.outline showObject)]

end Event

end ClaimGrid
