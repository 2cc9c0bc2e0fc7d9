import ComponentPages.Json.Value

namespace ComponentPages

/-!
# Writing JSON

A document is written with one item or field a line, indented by two spaces for each level. In a
string, quotes, backslashes and control characters are escaped.
-/

namespace JsonValue

def hexadecimalDigit (value : Nat) : Char :=
  ("0123456789abcdef".toList)[value]?.getD '0'

def escape (character : Char) : Text :=
  match character with
  | '"' => ['\\', '"']
  | '\\' => ['\\', '\\']
  | '\x08' => ['\\', 'b']
  | '\x0c' => ['\\', 'f']
  | '\n' => ['\\', 'n']
  | '\r' => ['\\', 'r']
  | '\t' => ['\\', 't']
  | _ =>
      if character < ' ' then
        "\\u00".toList ++
          [hexadecimalDigit (character.toNat / 16), hexadecimalDigit (character.toNat % 16)]
      else
        [character]

def quote (content : Text) : Text :=
  '"' :: content.flatMap escape ++ ['"']

/-- The start of a line at a level. -/
def lineAt (level : Nat) : Text :=
  '\n' :: List.replicate (2 * level) ' '

mutual

/-- The text of a value whose lines are at a level. -/
def print (level : Nat) : JsonValue → Text
  | .null => "null".toList
  | .boolean true => "true".toList
  | .boolean false => "false".toList
  | .number written => written
  | .text content => quote (content.getD [])
  | .list [] => "[]".toList
  | .list (item :: later) =>
      '[' :: lineAt (level + 1) ++ print (level + 1) item ++ printItems (level + 1) later ++
        lineAt level ++ [']']
  | .object [] => "\x7b\x7d".toList
  | .object ((name, value) :: later) =>
      '\x7b' :: lineAt (level + 1) ++ quote (name.getD []) ++ ": ".toList ++
        print (level + 1) value ++ printFields (level + 1) later ++ lineAt level ++ ['\x7d']

def printItems (level : Nat) : List JsonValue → Text
  | [] => []
  | item :: later => ',' :: lineAt level ++ print level item ++ printItems level later

/-- The text of the fields after the first. -/
def printFields (level : Nat) : List (Option Text × JsonValue) → Text
  | [] => []
  | (name, value) :: later =>
      ',' :: lineAt level ++ quote (name.getD []) ++ ": ".toList ++ print level value ++
        printFields level later

end

def toText (value : JsonValue) : Text :=
  value.print 0

end JsonValue

end ComponentPages
