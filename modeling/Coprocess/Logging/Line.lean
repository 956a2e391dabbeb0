import Coprocess.Event
import Coprocess.Logging.Timestamp
import Coprocess.Text.Quoted

/-!
# Log lines

A record becomes one line of a log.  A plain line shows the severity, the message and the fields, of
which only constant names are quoted.  A JSON line is an object that holds the fields, the message
among them, as an object of its own.
-/

namespace Coprocess.Logging

open Host

/-! ### Plain lines -/

/-- The value of a field in a plain line. -/
def FieldValue.plain : FieldValue → String
  | .name s => Text.quoted s
  | .text s => s
  | .number n => toString n

/-- The form of a severity in a plain line, at the right of five columns. -/
def column (s : Severity) : String :=
  String.ofList (List.replicate (5 - s.name.length) ' ') ++ s.name

/-- A record as a plain line. -/
def plainLine (t : Instant) (r : Record) : String :=
  let parts := r.message.toList ++ r.fields.map fun (name, v) => name ++ "=" ++ FieldValue.plain v
  timestamp t ++ " " ++ column r.severity ++ " " ++ String.intercalate " " parts ++ "\n"

/-! ### JSON lines -/

/-- The form of one character in a JSON string. -/
def jsonChar (c : Char) : List Char :=
  if c == '\x22' then ['\\', '\x22']
  else if c == '\\' then ['\\', '\\']
  else if c == '\n' then ['\\', 'n']
  else if c == '\r' then ['\\', 'r']
  else if c == '\t' then ['\\', 't']
  else if c.toNat == 8 then ['\\', 'b']
  else if c.toNat == 12 then ['\\', 'f']
  else if c.toNat < 32 then
    ['\\', 'u', '0', '0', Nat.digitChar (c.toNat / 16), Nat.digitChar (c.toNat % 16)]
  else [c]

/-- A JSON string. -/
def jsonString (s : String) : String :=
  String.ofList ('\x22' :: s.toList.flatMap jsonChar ++ ['\x22'])

/-- A JSON object whose values are given as they are written. -/
def jsonObject (members : List (String × String)) : String :=
  "\x7b" ++ String.intercalate "," (members.map fun (name, v) => jsonString name ++ ":" ++ v) ++
    "\x7d"

/-- The value of a field in a JSON line. -/
def FieldValue.json : FieldValue → String
  | .name s => jsonString s
  | .text s => jsonString s
  | .number n => toString n

/-- A record as a JSON line. -/
def jsonLine (t : Instant) (r : Record) : String :=
  let message := r.message.toList.map fun m => ("message", jsonString m)
  let fields := message ++ r.fields.map fun (name, v) => (name, FieldValue.json v)
  jsonObject [("timestamp", jsonString (timestamp t)), ("level", jsonString r.severity.name),
    ("fields", jsonObject fields)] ++ "\n"

end Coprocess.Logging
