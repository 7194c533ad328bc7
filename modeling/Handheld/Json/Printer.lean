import Handheld.Json.Basic
import Handheld.Text.Quoted

/-!
Writing JSON text in ASCII, on one line or with indentation, and values as messages show them.
-/

namespace Handheld.Json

/-- A code unit as a four-digit escape. -/
def unitEscape (unit : Nat) : List Char :=
  '\\' :: 'u' :: Text.hexTail 4 unit

/-- A code point inside a string. All but printable ASCII is escaped, beyond the sixteenth bit as
a pair of surrogates. -/
def escapePoint : CodePoint → List Char
  | .surrogate offset => unitEscape (0xD800 + offset)
  | .char c =>
    if c = '\x22' ∨ c = '\\' then ['\\', c]
    else if c = '\n' then ['\\', 'n']
    else if c = '\r' then ['\\', 'r']
    else if c = '\t' then ['\\', 't']
    else if c = '\x08' then ['\\', 'b']
    else if c = '\x0c' then ['\\', 'f']
    else if 0x20 ≤ c.toNat ∧ c.toNat < 0x7F then [c]
    else if c.toNat < 0x10000 then unitEscape c.toNat
    else
      let offset := c.toNat - 0x10000
      unitEscape (0xD800 + offset / 0x400) ++ unitEscape (0xDC00 + offset % 0x400)

/-- A string with its quotes. -/
def renderString (text : Text) : String :=
  String.ofList ('\x22' :: text.points.flatMap escapePoint ++ ['\x22'])

/-- A number in a document. -/
def renderNumber : Number → String
  | .int value => toString value
  | .float value => Decimal.inDocuments.render value

mutual

/-- Writes a value on one line without any space. -/
def compact : Json → String
  | .null => "null"
  | .bool true => "true"
  | .bool false => "false"
  | .number value => renderNumber value
  | .string value => renderString value
  | .array items => "[" ++ ",".intercalate (compactItems items) ++ "]"
  | .object members => "\x7b" ++ ",".intercalate (compactMembers members) ++ "\x7d"

/-- The items of an array, each on its own. -/
def compactItems : List Json → List String
  | [] => []
  | item :: rest => compact item :: compactItems rest

/-- The members of an object, each on its own. -/
def compactMembers : List (Text × Json) → List String
  | [] => []
  | (key, value) :: rest =>
    (renderString key ++ ":" ++ compact value) :: compactMembers rest

end

/-- A line break followed by the indentation of a nesting depth. -/
def newline (depth : Nat) : String :=
  String.ofList ('\n' :: List.replicate (2 * depth) ' ')

/-- Parts on lines of their own between two brackets; no parts at all stay on one line. -/
def block (depth : Nat) (opening closing : String) (parts : List String) : String :=
  if parts.isEmpty then opening ++ closing
  else
    opening ++ newline (depth + 1) ++ ("," ++ newline (depth + 1)).intercalate parts
      ++ newline depth ++ closing

mutual

/-- Writes a value at a nesting depth, with two spaces of indentation for each level. -/
def indented (depth : Nat) : Json → String
  | .array items => block depth "[" "]" (indentedItems (depth + 1) items)
  | .object members => block depth "\x7b" "\x7d" (indentedMembers (depth + 1) members)
  | .null => "null"
  | .bool true => "true"
  | .bool false => "false"
  | .number value => renderNumber value
  | .string value => renderString value

/-- The items of an array, each on its own. -/
def indentedItems (depth : Nat) : List Json → List String
  | [] => []
  | item :: rest => indented depth item :: indentedItems depth rest

/-- The members of an object, each on its own. -/
def indentedMembers (depth : Nat) : List (Text × Json) → List String
  | [] => []
  | (key, value) :: rest =>
    (renderString key ++ ": " ++ indented depth value) :: indentedMembers depth rest

end

mutual

/-- A value as a message shows it. -/
def shown : Json → String
  | .null => "None"
  | .bool true => "True"
  | .bool false => "False"
  | .number value => value.text
  | .string value => Text.quoted value
  | .array items => "[" ++ ", ".intercalate (shownItems items) ++ "]"
  | .object members => "\x7b" ++ ", ".intercalate (shownMembers members) ++ "\x7d"

/-- The items of an array, each on its own. -/
def shownItems : List Json → List String
  | [] => []
  | item :: rest => shown item :: shownItems rest

/-- The members of an object, each on its own. -/
def shownMembers : List (Text × Json) → List String
  | [] => []
  | (key, value) :: rest => (Text.quoted key ++ ": " ++ shown value) :: shownMembers rest

end

/-- A value as plain text: a string without quotes, anything else as a message shows it. -/
def plainText : Json → Text
  | .string value => value
  | value => value.shown

end Handheld.Json
