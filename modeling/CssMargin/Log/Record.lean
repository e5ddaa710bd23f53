/-
# Log records

A record says when, how weighty and where something happened, and what: a message that is made from
a template and arguments, further fields, and possibly the report of an error that was caught.  It
is written on one line, as text or as a JSON object; the text tells nothing of the fields.  An
integer with too many digits cannot be written, and a record with such a level or such a field has
no line that would show it.
-/
import CssMargin.Json.Writer
import CssMargin.Log.Level
import CssMargin.Log.Message
namespace CssMargin.Log

/-- A log record. -/
structure Record where
  /-- The time, as a distance from universal time of zero. -/
  time : Moment
  /-- The level. -/
  level : Int
  /-- The logger. -/
  logger : String
  /-- The template of the message. -/
  template : String
  /-- The arguments of the message. -/
  arguments : List Value
  /-- Further fields. -/
  fields : List (String × Json)
  /-- The report of an error that was caught. -/
  caught : Option String

namespace Record

/-- The fields that are written, in this order, unless they are missing or `null`. -/
def writtenFields : List String := ["arity", "index", "error_code", "command"]

/-- The day and the time of day of a record, with thousandths of a second. -/
def timeText (m : Moment) : String :=
  ({ m with micro := 0, offset := none } : Moment).text " " ++ "," ++ padded 3 (m.micro / 1000)

/-- A text with the report of an error, if there is one, on a line of its own. -/
def withCaught (caught : Option String) (t : Text) : Text :=
  match caught with
  | none | some "" => t
  | some report => t ++ (if t.points.getLast? = some (.char '\n') then "" else "\n") ++ report

/-- The message of a record.  The name of the level is looked up together with it. -/
def message (r : Record) : Except TemplateFault Text :=
  if Text.isLongInteger r.level then .error .longInteger
  else Log.message r.template r.arguments

/-- A record as text: time, level, logger and message. -/
def textLine (r : Record) : Except TemplateFault Text := do
  let message ← r.message
  .ok (withCaught r.caught
    (timeText r.time ++ " " ++ levelText r.level ++ " " ++ r.logger ++ ": " ++ message))

/-- A record as its message only. -/
def bareLine (r : Record) : Except TemplateFault Text := withCaught r.caught <$> r.message

/-- The further fields of a record that are written. -/
def shownFields (r : Record) : List (Text × Json) :=
  writtenFields.filterMap fun k => do
    let j ← r.fields.lookup k
    if j.isNull then none else some ((k : Text), j)

/-- The members of a record with a message. -/
def members (r : Record) (message : Text) : List (Text × Json) :=
  ([("timestamp", .text (({ r.time with offset := some 0 } : Moment).text "T")),
    ("level", .text (levelText r.level)), ("logger", .text r.logger), ("message", .text message)] :
      List (Text × Json)) ++
  r.shownFields ++
  (r.caught.map fun report : String => (("exception" : Text), Json.text report)).toList

/-- A record as a JSON object. -/
def jsonLine (r : Record) : Except TemplateFault String := do
  let message ← r.message
  if Json.anyLongMember r.shownFields then .error .longInteger
  else .ok (Json.write .record (.object (r.members message)))

end Record

end CssMargin.Log
