import FlightRelay.Json.Writer
import FlightRelay.Settings.App
import FlightRelay.Toml.Document

/-!
# Writing settings files

Settings are written as one table each, a line for every setting; a setting that is left to the machine
is not written.  `AppSettings.ofText?` reads settings back.
-/

namespace FlightRelay.Toml

open Json (Value)

/-- A character of a string, behind a backslash where it must be. -/
def escapeChar (c : Char) : List Char :=
  if c = '\x7f' then ['\\', 'u', '0', '0', '7', 'f'] else Json.escapeChar c

mutual

/-- Text of a value; `null` and objects have none. -/
def written : Value → Option (List Char)
  | .null | .object _ => none
  | .bool b => some (if b then ['t', 'r', 'u', 'e'] else ['f', 'a', 'l', 's', 'e'])
  | .number (.integer i) => some (toString i).toList
  | .number (.real x) =>
    some ((Decimal.Layout.write .interchange x).toList.map fun c => if c = 'N' then 'n' else c)
  | .string s => some ('"' :: s.toList.flatMap escapeChar ++ ['"'])
  | .array items => (writtenItems items).map fun t => '[' :: t ++ [']']

/-- Texts of values with commas behind them. -/
def writtenItems : List Value → Option (List Char)
  | [] => some []
  | v :: rest => do
    let head ← written v
    let tail ← writtenItems rest
    return head ++ ',' :: tail

end

/-- One line of a table. -/
def settingText (m : String × Value) : List Char :=
  match written m.2 with
  | some v => m.1.toList ++ ' ' :: '=' :: ' ' :: v ++ ['\n']
  | none => []

/-- One table with its header. -/
def tableText (t : String × List (String × Value)) : List Char :=
  '[' :: t.1.toList ++ ']' :: '\n' :: t.2.flatMap settingText ++ ['\n']

end FlightRelay.Toml

namespace FlightRelay.AppSettings

/-- The settings as a settings file. -/
def text (s : AppSettings) : String := String.ofList (s.tables.flatMap Toml.tableText)

/-- Reads settings from a settings file. -/
def ofText? (text : String) : Option AppSettings := (Toml.parse? text).bind (read? true)

end FlightRelay.AppSettings
