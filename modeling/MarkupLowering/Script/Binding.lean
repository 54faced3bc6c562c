import MarkupLowering.Script.Phrase

/-
  This file reads what introduces variables: names, patterns
  and the parameters of functions, with their types, defaults
  and decorators.

  Key definitions include:
    * `Script.bindingName`
    * `Script.propertyName`
    * `Script.pattern`
    * `Script.decorators`
    * `Script.ParameterSort`
    * `Script.parameters`
-/

namespace MarkupLowering.Script

------------------------------------------------------------
-- Names
------------------------------------------------------------

/- The name of a variable that is introduced. -/
def bindingName (context : Context) : Reader String := do
  match ← token with
  | .name word _ =>
      if isReserved word then
        unexpected
      else if word == "await" && context.awaits then
        unexpected
      else if word == "yield" && context.yields then
        unexpected
      else
        advance
        return word
  | _ => unexpected

/- A type after a colon, if there is one. -/
def typeAnnotation
    (self : Grammar)
    (context : Context) : Reader Unit := do
  if ← eat .colon then
    discard <| self (.typing context true)

/- A value after an equals sign, if there is one. -/
def defaultValue
    (self : Grammar)
    (context : Context) : Reader Unit := do
  if ← eat .equals then
    discard <| self (.assignment context true)

/-
  The name of a property or a member: a name, a literal, or an
  expression between brackets.  The text of a name or a string
  is given.
-/
inductive PropertyName where
  | plain (text : String) (isWord : Bool)
  | numeric
  | computed
  | hidden (text : String)
deriving DecidableEq, Repr

/- Read the name of a property. -/
def propertyName
    (self : Grammar)
    (context : Context) : Reader PropertyName := do
  match ← token with
  | .name word _ =>
      advance
      return .plain word true
  | .text value =>
      advance
      return .plain value false
  | .number _ _ =>
      advance
      return .numeric
  | .privateName word =>
      advance
      return .hidden word
  | .punct .openBracket =>
      advance
      discard <| self (.assignment context.inside true)
      expect .closeBracket
      return .computed
  | _ => unexpected

------------------------------------------------------------
-- Patterns
------------------------------------------------------------

/- A pattern with its default. -/
def patternWithDefault
    (self : Grammar)
    (context : Context) : Reader Unit := do
  discard <| self (.pattern context)
  defaultValue self context.inside

/- An element of an array pattern. -/
def arrayPatternItem
    (self : Grammar)
    (context : Context) : Reader Unit := do
  if ← isAt .comma then
    return
  if ← eat .ellipsis then
    discard <| self (.pattern context)
    unless ← isAt .closeBracket do
      refuse .misplaced
  else
    patternWithDefault self context

/- A property of an object pattern. -/
def objectPatternItem
    (self : Grammar)
    (context : Context) : Reader Unit := do
  if ← eat .ellipsis then
    discard <| bindingName context
    unless ← isAt .closeBrace do
      refuse .misplaced
  else
    let isVariable := (← token).isVariable
    let isShort ← isAhead do
      advance
      return !(← isAt .colon)
    if isVariable && isShort then
      discard <| bindingName context
      defaultValue self context.inside
    else
      match ← propertyName self context with
      | .hidden _ => unexpected
      | _ =>
          expect .colon
          patternWithDefault self context

/- A name or a pattern of names. -/
def pattern
    (self : Grammar)
    (context : Context) : Reader Phrase := do
  let start ← here
  if ← eat .openBracket then
    discard <| listUntil .closeBracket (arrayPatternItem self context)
    phraseFrom start .other
  else if ← eat .openBrace then
    discard <| listUntil .closeBrace (objectPatternItem self context)
    phraseFrom start .other
  else
    let name ← bindingName context
    phraseFrom start (.name name)

------------------------------------------------------------
-- Parameters
------------------------------------------------------------

/- Decorators, in front of what they decorate. -/
def decorators
    (self : Grammar)
    (context : Context) : Reader Unit :=
  repeatFrom () fun _ => do
    if ← eat .atSign then
      discard <| self (.leftHand { context with inDecorator := true })
      return .again ()
    else
      return .done ()

/- Words in front of a parameter that also make it a field. -/
def parameterModifiers : List String :=
  ["public", "private", "protected", "readonly", "override"]

/- Modifiers of a parameter. -/
def skipParameterModifiers : Reader Unit :=
  repeatFrom () fun _ => do
    let isModifier ← isAtAnyWord parameterModifiers
    let isFollowed ← isAhead do
      advance
      return (← token).isName || (← isAtAny [.openBrace, .openBracket])
    if isModifier && isFollowed then
      advance
      return .again ()
    else
      return .done ()

/-
  What kind of parameter was read.  The receiver is described
  by a parameter with the name `this`.
-/
inductive ParameterSort where
  | plain
  | withDefault
  | rest
  | receiver
deriving DecidableEq, Repr

/- The type and the default of a parameter, after its name or pattern. -/
def parameterRest
    (self : Grammar)
    (context : Context) : Reader ParameterSort := do
  discard <| eat .question
  typeAnnotation self context
  let hasDefault ← isAt .equals
  defaultValue self context.inside
  return if hasDefault then .withDefault else .plain

/- A parameter. -/
def parameter
    (self : Grammar)
    (context : Context) : Reader ParameterSort := do
  decorators self context
  skipParameterModifiers
  if ← eat .ellipsis then
    discard <| self (.pattern context)
    typeAnnotation self context
    unless ← isAt .closeParen do
      refuse .misplaced
    return .rest
  else if ← eatWord "this" then
    typeAnnotation self context
    return .receiver
  else
    discard <| self (.pattern context)
    parameterRest self context

/- Parameters between parentheses. -/
def parameters
    (self : Grammar)
    (context : Context) : Reader (List ParameterSort) := do
  expect .openParen
  listUntil .closeParen (parameter self context)

end MarkupLowering.Script
