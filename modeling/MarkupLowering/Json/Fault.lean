import MarkupLowering.Json.Number
import MarkupLowering.Number.Shortest
import MarkupLowering.Text.Shown

/-
  This file defines why JSON text is not the record it should
  be: the text is malformed, or it is well-formed up to a
  value that does not belong there.

  Key definitions include:
    * `Json.Found`
    * `Json.Flaw`
    * `Json.Flaw.message`
    * `Json.Fault`
-/

namespace MarkupLowering.Json

/- The value that was found. -/
inductive Found where
  | null
  | boolean (value : Bool)
  | number (value : Number)
  | text (value : String)
  | sequence
  | map
deriving DecidableEq, Repr

namespace Found

/- The name of a number in messages. -/
def numberText : Number → String
  | .natural value => "integer \x60" ++ toString value ++ "\x60"
  | .negative magnitude => "integer \x60-" ++ toString magnitude ++ "\x60"
  | .real isNegative magnitude =>
      "floating point \x60" ++ (if isNegative then "-" else "")
        ++ magnitude.text ++ "\x60"

/- The name of a value in messages. -/
def message : Found → String
  | null => "null"
  | boolean value =>
      "boolean \x60" ++ (if value then "true" else "false")
        ++ "\x60"
  | number value => numberText value
  | text value => "string " ++ Text.shown value
  | sequence => "sequence"
  | map => "map"

end Found

/- What is wrong with a value. -/
inductive Flaw where
  | missingField (name : String)
  | duplicateField (name : String)
  | invalidType (found : Found) (expected : String)
  | invalidValue (found : Found) (expected : String)
  | invalidLength (count : Nat) (expected : String)
  | unknownVariant (name : String) (expected : List String)
deriving DecidableEq, Repr

namespace Flaw

/- A name between grave accents. -/
def marked (name : String) : String :=
  "\x60" ++ name ++ "\x60"

/- The names one of which was expected. -/
def oneOf (names : List String) : String :=
  match names with
  | [first, second] =>
      "expected " ++ marked first ++ " or " ++ marked second
  | [only] => "expected " ++ marked only
  | names => "expected one of " ++ ", ".intercalate (names.map marked)

/- The flaw in words. -/
def message : Flaw → String
  | missingField name => "missing field " ++ marked name
  | duplicateField name => "duplicate field " ++ marked name
  | invalidType found expected =>
      "invalid type: " ++ found.message ++ ", expected " ++ expected
  | invalidValue found expected =>
      "invalid value: " ++ found.message ++ ", expected " ++ expected
  | invalidLength count expected =>
      "invalid length " ++ toString count ++ ", expected " ++ expected
  | unknownVariant name expected =>
      "unknown variant " ++ marked name ++ ", " ++ oneOf expected

end Flaw

/- Why JSON text is not the record it should be. -/
inductive Fault where
  | malformed
  | flawed (flaw : Flaw)
deriving DecidableEq, Repr

end MarkupLowering.Json
