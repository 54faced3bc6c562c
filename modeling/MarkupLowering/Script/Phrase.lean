import MarkupLowering.Script.Cursor

/-
  This file defines what the grammar tells of a phrase that
  was read, and the rules of the grammar that refer to one
  another.

  Key definitions include:
    * `Script.Form`
    * `Script.Phrase`
    * `Script.Context`
    * `Script.Rule`
    * `Script.Grammar`
-/

namespace MarkupLowering.Script

------------------------------------------------------------
-- Phrases
------------------------------------------------------------

/-
  The form of an expression, as far as the phrases around it
  depend on it.

  An array literal is known by the elements that are plain
  names, an object literal by its properties if all of them
  have plain values, and both by whether they can be a target
  of an assignment.
-/
inductive Form where
  | name (text : String)
  | text (value : String)
  | number (spelling : String)
  | boolean (value : Bool)
  | template (first : String)
  | array (elements : List (Option String)) (isTarget : Bool)
  | object
      (properties : Option (List (String × String)))
      (isTarget : Bool)
  | staticMember
  | member
  | arrow
  | function
  | ofClass
  | wrapped (isTarget : Bool)
  | instantiation (inner : Form) (span : Span)
  | assignment
  | coalescing
  | logical
  | markup (element : Markup Construct)
  | other

namespace Form

/- A name or a member: a target that is no pattern. -/
def isSimpleTarget : Form → Bool
  | name _ => true
  | staticMember => true
  | member => true
  | wrapped isTarget => isTarget
  | _ => false

/- A target of an assignment. -/
def isTarget : Form → Bool
  | array _ isTarget => isTarget
  | object _ isTarget => isTarget
  | form => form.isSimpleTarget

/- A target inside a pattern, which may have a default. -/
def isInnerTarget : Form → Bool
  | assignment => true
  | form => form.isTarget

/- A function, an arrow function or a class. -/
def isDeclaration : Form → Bool
  | arrow => true
  | function => true
  | ofClass => true
  | _ => false

/- The text of a plain value. -/
def plainText? : Form → Option String
  | name word => some word
  | text value => some value
  | number spelling => some spelling
  | boolean value => some (if value then "true" else "false")
  | template first => some first
  | _ => none

end Form

/- A phrase that was read. -/
structure Phrase where
  span : Span
  form : Form

/- A phrase from an offset to the end of the last token. -/
def phraseFrom
    (start : Nat)
    (form : Form) : Reader Phrase := do
  return ⟨← spanFrom start, form⟩

/-
  Read the value that a construct stands around.  Only the
  declaration that the value itself is stands directly there.
-/
def valueIn
    (holder : Construct)
    (reader : Reader Phrase) : Reader Phrase := do
  let (phrase, pieces) ← gather reader
  if phrase.form.isDeclaration then
    note (.group holder pieces)
  else
    note (.group holder [.group .expression pieces])
  return phrase

------------------------------------------------------------
-- Rules
------------------------------------------------------------

/-
  What the surroundings allow: the operator `in`, waiting,
  yielding and returning; and whether they are a decorator or
  describe code that is elsewhere.
-/
structure Context where
  allowsIn : Bool
  awaits : Bool
  yields : Bool
  returns : Bool
  inDecorator : Bool := false
  isAmbient : Bool := false
deriving DecidableEq, Repr

namespace Context

/- The top of a module. -/
def top : Context :=
  { allowsIn := true, awaits := true, yields := false, returns := false }

/- The inside of brackets, where the operator `in` is allowed. -/
def inside (context : Context) : Context :=
  { context with allowsIn := true, inDecorator := false }

/- Code embedded in markup, where nothing can be yielded. -/
def embedded (context : Context) : Context :=
  { context.inside with yields := false, returns := false }

/- The body of a function. -/
def body
    (context : Context)
    (isAsync isGenerator : Bool) : Context :=
  { context with
    allowsIn := true
    awaits := isAsync
    yields := isGenerator
    returns := true
    inDecorator := false }

/- The body of a class, outside its methods. -/
def classBody (context : Context) : Context :=
  { context with
    allowsIn := true
    awaits := false
    yields := false
    returns := false
    inDecorator := false }

end Context

/- Where a statement stands. -/
inductive StatementPlace where
  | inList
  | alone
deriving DecidableEq, Repr

/- A rule of the grammar. -/
inductive Rule where
  | expression (context : Context)
  | assignment (context : Context) (allowsArrowType : Bool)
  | binary (context : Context) (level : Nat)
  | unary (context : Context)
  | leftHand (context : Context)
  | markup (context : Context)
  | pattern (context : Context)
  | typing (context : Context) (allowsConditional : Bool)
  | statement (context : Context) (place : StatementPlace)
deriving DecidableEq, Repr

/-
  The readings of all rules.  A rule that refers to others is
  given theirs, so that each rule can be stated by itself.
-/
abbrev Grammar :=
  Rule → Reader Phrase

------------------------------------------------------------
-- Lists
------------------------------------------------------------

/-
  Read items that commas divide, up to a closing punctuator,
  which is passed.  A comma may stand before it.
-/
def listUntil
    {α : Type}
    (close : Punct)
    (item : Reader α) : Reader (List α) := do
  let items ← repeatFrom [] fun found => do
    if ← isAt close then
      return .done found
    let value ← item
    if ← isAt close then
      return .done (value :: found)
    expect .comma
    return .again (value :: found)
  expect close
  return items.reverse

end MarkupLowering.Script
