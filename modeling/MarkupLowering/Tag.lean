import MarkupLowering.Text.Letter
import MarkupLowering.Text.Lowercase

/-
  This file defines the names of elements: their text, when a
  name refers to a component, and what is wrong with a name
  that is not allowed.

  Key definitions include:
    * `isWord`
    * `isHyphenWord`
    * `TagName`
    * `TagName.text`
    * `TagName.isComponent`
    * `TagFlaw`
    * `TagName.flaw?`
-/

namespace MarkupLowering

------------------------------------------------------------
-- Words
------------------------------------------------------------

/- The character may begin a word of code. -/
def isWordStart (c : Char) : Bool :=
  Text.isLetter c || c == '_' || c == '$'

/- The character may continue a word of code. -/
def isWordPart (c : Char) : Bool :=
  Text.isLetter c || Text.isNumeric c || c == '_' || c == '$'

/- The character may continue a word of markup. -/
def isHyphenWordPart (c : Char) : Bool :=
  isWordPart c || c == '-'

/- A word of code: a letter, then letters and numbers. -/
def isWordChars : List Char → Bool
  | [] => false
  | c :: cs => isWordStart c && cs.all isWordPart

/- A word of markup, in which hyphens may follow the first letter. -/
def isHyphenWordChars : List Char → Bool
  | [] => false
  | c :: cs => isWordStart c && cs.all isHyphenWordPart

/- The text is a word of code. -/
def isWord (text : String) : Bool :=
  isWordChars text.toList

/- The text is a word of markup. -/
def isHyphenWord (text : String) : Bool :=
  isHyphenWordChars text.toList

------------------------------------------------------------
-- Tag Names
------------------------------------------------------------

/- The name of an element. -/
inductive TagName where
  | identifier (name : String)
  | member (segments : List String)
  | namespaced (space name : String)
  | fragment
deriving DecidableEq, Repr, Inhabited

namespace TagName

/- The name as it is written in markup. -/
def text : TagName → String
  | identifier name => name
  | member segments => ".".intercalate segments
  | namespaced space name => space ++ ":" ++ name
  | fragment => ""

/- The character that decides what the name refers to. -/
def leading? : TagName → Option Char
  | identifier name => name.toList.head?
  | member segments =>
      segments.head?.bind fun segment => segment.toList.head?
  | namespaced space _ => space.toList.head?
  | fragment => none

/-
  The name refers to a component: its leading character is
  not a lower-case one.
-/
def isComponent (tag : TagName) : Bool :=
  match tag.leading? with
  | some c => !Text.isLowercase c
  | none => false

end TagName

------------------------------------------------------------
-- Flaws
------------------------------------------------------------

/- What is wrong with the name of an element. -/
inductive TagFlaw where
  | notAWord
  | hyphenInComponent
  | tooFewSegments
  | badSegment (segment : String)
  | badNamespacedName
  | namespacedComponent
deriving DecidableEq, Repr

namespace TagFlaw

/- The flaw in words. -/
def message : TagFlaw → String
  | notAWord => "not a valid JSX identifier"
  | hyphenInComponent =>
      "component tags must be valid JavaScript identifiers"
  | tooFewSegments => "member tags need an object and a property"
  | badSegment segment => "invalid member segment '" ++ segment ++ "'"
  | badNamespacedName => "namespace and name must be JSX identifiers"
  | namespacedComponent => "namespaced tags cannot reference components"

end TagFlaw

namespace TagName

/- The first flaw of a name, if it has any. -/
def flaw? (tag : TagName) : Option TagFlaw :=
  match tag with
  | identifier name =>
      if !isHyphenWord name then
        some .notAWord
      else if tag.isComponent && !isWord name then
        some .hyphenInComponent
      else
        none
  | member segments =>
      if segments.length < 2 then
        some .tooFewSegments
      else
        (segments.find? fun segment => !isWord segment).map .badSegment
  | namespaced space name =>
      if !isHyphenWord space || !isHyphenWord name then
        some .badNamespacedName
      else if tag.isComponent then
        some .namespacedComponent
      else
        none
  | fragment => none

end TagName

end MarkupLowering
