import SuperChip.Event
import SuperChip.Text.Blank
import SuperChip.Text.Case
import SuperChip.Text.Template

/-!
# Debug messages

Events are printed as messages, each under a category. Categories are switched on by a list of
names, or all of them at once.

- `Debug.Categories`: the categories that are switched on.
- `Debug.line?`: a message of a category as it is printed.
- `Event.category`, `Event.template`, `Event.values`: the category of an event, and what it is
  worded with; `Event.message` is its wording.
- `Debug.lines`: what is printed for events.
- `Debug.Session`: the switches together with the variable that they are read from.

Models `debug_enabled` and `debug_log`.
-/

namespace SuperChip

open Text

namespace Event

/-- The category of an event. -/
def category : Event → String
  | fetched .. => "cpu"
  | counted .. => "timer"
  | keyChanged .. | unboundKey .. => "input"
  | reset _ | failed _ | halted .. | loaded .. => "machine"
  | traced _ => "trace"
  | tone _ | mixerMissing | beeperRefused _ => "audio"

/-- The template that an event is worded with. -/
def template : Event → String
  | fetched .. => "pc=%03x %04x %s"
  | counted .. => "%s=%d"
  | keyChanged .. => "key=%X pressed=%s"
  | unboundKey _ true => "unmapped_press=%s"
  | unboundKey _ false => "unmapped_release=%s"
  | reset _ => "reset program=%d bytes"
  | failed _ => "fatal %s: %s"
  | halted .. => "halt reason=%s pc=%03x"
  | loaded .. => "rom=%s size=%d"
  | traced entry => entry.render
  | tone _ => "tone=%s"
  | mixerMissing => "mixer_unavailable"
  | beeperRefused _ => "beeper_init_failed=%s"

/-- The values that the template of an event has places for. -/
def values : Event → List Value
  | fetched pc d => [.integer pc, .integer d.word.toNat, .text d.text]
  | counted timer value => [.text timer, .integer value.toNat]
  | keyChanged key pressed => [.integer key.val, .truth pressed]
  | unboundKey name _ => [.text name]
  | reset size => [.integer size]
  | failed f => [.text f.name, .text f.message]
  | halted reason pc => [reason.elim .absent .text, .integer pc]
  | loaded name size => [.text name, .integer size]
  | tone on => [.text (if on then "on" else "off")]
  | traced _ | mixerMissing => []
  | beeperRefused reason => [.text reason]

/-- The wording of an event. -/
def message : Event → String
  | fetched pc d => "pc=" ++ hexLower 3 pc ++ " " ++ hexLower 4 d.word.toNat ++ " " ++ d.text
  | counted timer value => s!"{timer}={value.toNat}"
  | keyChanged key pressed =>
    "key=" ++ hexUpper 1 key.val ++ " pressed=" ++ (Value.truth pressed).plain
  | unboundKey name true => "unmapped_press=" ++ name
  | unboundKey name false => "unmapped_release=" ++ name
  | reset size => s!"reset program={size} bytes"
  | failed f => "fatal " ++ f.describe
  | halted reason pc =>
    "halt reason=" ++ reason.getD Value.absent.plain ++ " pc=" ++ hexLower 3 pc
  | loaded name size => s!"rom={name} size={size}"
  | traced entry => entry.render
  | tone on => "tone=" ++ if on then "on" else "off"
  | mixerMissing => "mixer_unavailable"
  | beeperRefused reason => "beeper_init_failed=" ++ reason

end Event

namespace Debug

/-- The names of the categories that are switched on, in lower case. -/
abbrev Categories := List String

/-- The categories that a text lists between commas. Blanks and case do not count. -/
def Categories.ofText (text : String) : Categories :=
  ((text.splitOn ",").map fun part => lower (strip part)).filter (!·.isEmpty)

/-- Whether a category is switched on. Without a category the question is whether any is. -/
def enabled (categories : Categories) (category : Option String) : Bool :=
  !categories.isEmpty &&
    match category with
    | none => true
    | some name => categories.contains "all" || categories.contains (lower name)

/-- A message as it is printed. -/
def render (category message : String) : String := "[CHIP8][" ++ category ++ "] " ++ message

/-- A message of a category as it is printed, if the category is switched on. -/
def line? (categories : Categories) (category message : String) : Option String :=
  if enabled categories (some category) then some (render category message) else none

/-- What is printed for events. -/
def lines (categories : Categories) (events : List Event) : List String :=
  events.filterMap fun e => line? categories e.category e.message

/-- The switches, and the variable they are read from when they are first asked for. -/
structure Session where
  setting : Option String
  read : Option Categories

namespace Session

/-- A session that has read nothing yet. -/
def start (setting : Option String) : Session := ⟨setting, none⟩

/-- The categories that are switched on, read from the variable if need be. -/
def categories (s : Session) : Categories := s.read.getD (.ofText (s.setting.getD ""))

/-- The session once it has read the variable. -/
def settled (s : Session) : Session := { s with read := some s.categories }

/-- Forgets what was read, so that the variable is read again. -/
def reload (s : Session) : Session := { s with read := none }

/-- A message as it is printed, if its category is switched on: a template with values. -/
def log (room : Room) (s : Session) (category template : String) (values : List Value) :
    Except Oversize (Option String) :=
  if enabled s.categories (some category) then
    (Template.fill room template values).map fun message => some (render category message)
  else .ok none

/-- Changes the variable. -/
def set (s : Session) (setting : Option String) : Session := { s with setting := setting }

end Session

end Debug

end SuperChip
