import ClaimGrid.Board.Error
import ClaimGrid.Feed.Settings

/-!
# Errors of the settings

## Main definitions

* `SettingsError`: why settings could not be loaded.
* `SettingsError.ofGrid`, `SettingsError.ofBoard`, `SettingsError.ofFeed`: a refusal by one of the
  parts, kept as its sentence.
-/

namespace ClaimGrid

/-- Why settings could not be loaded. -/
inductive SettingsError where
  /-- The file could not be read. -/
  | unreadable (path reason : String)
  /-- The text is no settings document. -/
  | malformed (reason : String)
  /-- A setting is out of range. -/
  | invalid (reason : String)
  deriving DecidableEq

namespace SettingsError

/-- A refusal by the grid. -/
def ofGrid (e : GridError) : SettingsError := .invalid e.message

/-- A refusal by the board. -/
def ofBoard (e : BoardError) : SettingsError := .invalid e.message

/-- A refusal by the feed. -/
def ofFeed (e : FeedError) : SettingsError := .invalid e.message

/-- The sentence for a cause. -/
def message : SettingsError → String
  | unreadable path reason => "failed to read config file " ++ path ++ ": " ++ reason
  | malformed reason => "failed to parse config: " ++ reason
  | invalid reason => "invalid configuration: " ++ reason

/-- Settings fail as such. -/
def kind (_ : SettingsError) : FaultKind := .configuration

/-- The cause as it is shown to a developer. -/
def outline : SettingsError → Outline
  | unreadable path reason => .record "Io" [("path", .quoted path), ("message", .quoted reason)]
  | malformed reason => .tuple "Parse" [.quoted reason]
  | invalid reason => .tuple "Invalid" [.quoted reason]

end SettingsError

end ClaimGrid
