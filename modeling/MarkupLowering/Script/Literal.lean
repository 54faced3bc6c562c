import MarkupLowering.Script.Function

/-
  This file reads literals of arrays and objects, and
  templates.

  Key definitions include:
    * `Script.arrayLiteral`
    * `Script.objectLiteral`
    * `Script.templatePieces`
-/

namespace MarkupLowering.Script

------------------------------------------------------------
-- Arrays
------------------------------------------------------------

/- What an element of an array literal tells. -/
structure ArrayItem where
  name? : Option String
  isTarget : Bool

/- An element of an array literal. -/
def arrayItem
    (self : Grammar)
    (context : Context) : Reader ArrayItem := do
  if ← isAt .comma then
    return ⟨none, true⟩
  if ← eat .ellipsis then
    let phrase ← self (.assignment context.inside true)
    return ⟨none, phrase.form.isTarget && (← isAt .closeBracket)⟩
  let phrase ← self (.assignment context.inside true)
  match phrase.form with
  | .name word => return ⟨some word, true⟩
  | form => return ⟨none, form.isInnerTarget⟩

/- An array literal. -/
def arrayLiteral
    (self : Grammar)
    (context : Context) : Reader Phrase := do
  let start ← here
  expect .openBracket
  let items ← listUntil .closeBracket (arrayItem self context)
  phraseFrom start
    (.array (items.map (·.name?)) (items.all (·.isTarget)))

------------------------------------------------------------
-- Objects
------------------------------------------------------------

/- What a property of an object literal tells. -/
structure ObjectItem where
  plain? : Option (String × String)
  isTarget : Bool

/- A property that is neither plain nor a target. -/
def ObjectItem.closedItem : ObjectItem :=
  ⟨none, false⟩

/- The word `async` at hand modifies a method. -/
def isAsyncMethodAhead : Reader Bool :=
  isAhead do
    expectWord "async"
    return !(← isAfterLineEnd) && ((← isMemberName) || (← isAt .star))

/- The value of a property after its colon. -/
def propertyValue
    (self : Grammar)
    (context : Context)
    (name : PropertyName) : Reader ObjectItem := do
  expect .colon
  let phrase ←
    valueIn (.property false .plain)
      (self (.assignment context.inside true))
  let plain? :=
    match name, phrase.form.plainText? with
    | .plain key _, some value => some (key, value)
    | _, _ => none
  return ⟨plain?, phrase.form.isInnerTarget⟩

/-
  A property that is given by its name only.  It may have a
  default where the literal is a target.
-/
def shortProperty
    (self : Grammar)
    (context : Context)
    (name : PropertyName) : Reader ObjectItem := do
  match name with
  | .plain key true =>
      if isReserved key || (key == "await" && context.awaits)
          || (key == "yield" && context.yields) then
        unexpected
      let start ← here
      if ← eat .equals then
        discard <| self (.assignment context.inside true)
        modify fun cursor =>
          { cursor with defaults := start :: cursor.defaults }
        return ⟨none, true⟩
      else
        return ⟨some (key, key), true⟩
  | _ => unexpected

/- The property whose value a method is. -/
def MethodSort.property : MethodSort → Construct
  | getter => .property false .getter
  | setter => .property false .setter
  | _ => .property true .plain

/- A property of an object literal. -/
def objectItem
    (self : Grammar)
    (context : Context) : Reader ObjectItem := do
  if ← eat .ellipsis then
    let phrase ← self (.assignment context.inside true)
    return ⟨none, phrase.form.isTarget && (← isAt .closeBrace)⟩
  let isAsync ← isAsyncMethodAhead
  if isAsync then
    advance
  let sort ← methodMarks isAsync
  let name ← propertyName self context
  match name with
  | .hidden _ => unexpected
  | _ => pure ()
  if sort != .plain || (← isAtAny [.openParen, .less]) then
    methodPhrase self context sort sort.property
    return .closedItem
  else if ← isAt .colon then
    propertyValue self context name
  else
    shortProperty self context name

/- All values, if every item has one. -/
def allPresent {α : Type} : List (Option α) → Option (List α)
  | [] => some []
  | none :: _ => none
  | some value :: rest => (allPresent rest).map (value :: ·)

/- An object literal. -/
def objectLiteral
    (self : Grammar)
    (context : Context) : Reader Phrase := do
  let start ← here
  expect .openBrace
  let items ← listUntil .closeBrace (objectItem self context)
  phraseFrom start
    (.object (allPresent (items.map (·.plain?))) (items.all (·.isTarget)))

------------------------------------------------------------
-- Templates
------------------------------------------------------------

/-
  The pieces of a template and the code between them.  Only
  the template of a tag may have escapes without a meaning.
-/
def templatePieces
    (self : Grammar)
    (context : Context)
    (isTagged : Bool) : Reader Unit :=
  repeatFrom () fun _ => do
    match ← token with
    | .template _ isValid isLast =>
        unless isValid || isTagged do
          refuse .invalidEscape
        advance
        if isLast then
          return .done ()
        discard <| self (.expression context.inside)
        unless ← isAt .closeBrace do
          unexpected
        rereadBy readTemplate
        return .again ()
    | _ => unexpected

/- A template that stands alone. -/
def templateLiteral
    (self : Grammar)
    (context : Context) : Reader Phrase := do
  let start ← here
  match ← token with
  | .template first _ _ =>
      templatePieces self context false
      phraseFrom start (.template first)
  | _ => unexpected

end MarkupLowering.Script
