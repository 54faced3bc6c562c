import MarkupLowering.Text.LowerCasing

/-
  This file turns names in camel case into names in lower case
  with hyphens, as style sheets write them.

  Key definitions include:
    * `Kebab.hyphenate`
    * `Kebab.hasVendorMark`
    * `kebabCase`
-/

namespace MarkupLowering

namespace Kebab

/- A small ASCII letter or a digit. -/
def isSmall (c : Char) : Bool :=
  c.isLower || c.isDigit

/- Put a hyphen between a small character and a capital one. -/
def hyphenate : List Char → List Char
  | [] => []
  | [c] => [c]
  | c :: d :: rest =>
      if isSmall c && d.isUpper then
        c :: '-' :: hyphenate (d :: rest)
      else
        c :: hyphenate (d :: rest)

/-
  The name begins with a vendor: a capital letter, or the
  letters `ms` and a capital letter.
-/
def hasVendorMark : List Char → Bool
  | 'm' :: 's' :: c :: _ => c.isUpper
  | c :: _ => c.isUpper
  | [] => false

/- The characters of a name in lower case with hyphens. -/
def chars (name : List Char) : List Char :=
  let lower := Text.lowerText (hyphenate name)
  if hasVendorMark name then
    '-' :: lower
  else
    lower

end Kebab

/-
  A name in lower case with hyphens.  A name that begins with
  a vendor gets a hyphen in front.
-/
def kebabCase (name : String) : String :=
  String.ofList (Kebab.chars name.toList)

end MarkupLowering
