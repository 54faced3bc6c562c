import MarkupLowering.Text.Quoted

/-
  This file writes JSON text without blanks.

  Key definitions include:
    * `Json.Writer.text`
    * `Json.Writer.natural`
    * `Json.Writer.boolean`
    * `Json.Writer.optional`
    * `Json.Writer.list`
    * `Json.Writer.object`
-/

namespace MarkupLowering.Json.Writer

/- A string. -/
def text (value : String) : String :=
  Text.Quoted.literal value

/- A natural number. -/
def natural (value : Nat) : String :=
  toString value

/- A truth value. -/
def boolean (value : Bool) : String :=
  if value then "true" else "false"

/- A value or null. -/
def optional
    {α : Type}
    (write : α → String) : Option α → String
  | some value => write value
  | none => "null"

/- An array of written items. -/
def list (items : List String) : String :=
  "[" ++ ",".intercalate items ++ "]"

/- A member with a written value. -/
def member (entry : String × String) : String :=
  text entry.1 ++ ":" ++ entry.2

/- An object of written values. -/
def object (entries : List (String × String)) : String :=
  "\x7b" ++ ",".intercalate (entries.map member) ++ "\x7d"

end MarkupLowering.Json.Writer
