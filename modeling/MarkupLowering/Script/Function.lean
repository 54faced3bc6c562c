import MarkupLowering.Script.Typing

/-
  This file reads functions, arrow functions and methods.

  Key definitions include:
    * `Script.functionBody`
    * `Script.functionPhrase`
    * `Script.MethodSort`
    * `Script.methodPhrase`
    * `Script.arrowBody`
    * `Script.parenthesisedArrow`
-/

namespace MarkupLowering.Script

------------------------------------------------------------
-- Bodies
------------------------------------------------------------

/- Statements up to a closing brace, which stays at hand. -/
def statementsUntilBrace
    (self : Grammar)
    (context : Context) : Reader Unit :=
  repeatFrom () fun _ => do
    if ← isAt .closeBrace then
      return .done ()
    discard <| self (.statement context .inList)
    return .again ()

/- Statements between braces. -/
def block
    (self : Grammar)
    (context : Context) : Reader Unit := do
  expect .openBrace
  statementsUntilBrace self context
  expect .closeBrace

/- The body of a function, or the end of a mere signature. -/
def functionBody
    (self : Grammar)
    (context : Context) : Reader Unit := do
  if ← isAt .openBrace then
    block self context
  else
    endStatement

------------------------------------------------------------
-- Functions and Methods
------------------------------------------------------------

/- The words `async function` are at hand, on one line. -/
def isAsyncFunctionAhead : Reader Bool :=
  isAhead do
    expectWord "async"
    return (← isAtWord "function") && !(← isAfterLineEnd)

/- How the name of a function is treated. -/
inductive FunctionUse where
  | expression
  | statement
  | exportedDefault
deriving DecidableEq, Repr

/-
  A function from its first word on.  The name of a statement
  belongs to the code around it, and must be there.
-/
def functionPhrase
    (self : Grammar)
    (context : Context)
    (use : FunctionUse) : Reader Phrase :=
  declare [] do
    let start ← here
    let isAsync ← eatWord "async"
    expectWord "function"
    let isGenerator ← eat .star
    let inner := context.body isAsync isGenerator
    let nameContext := if use == .expression then inner else context
    let name? ←
      if (← token).isVariable then
        pure (some (← bindingName nameContext))
      else if use == .statement then
        unexpected
      else
        pure none
    discard <| signature self inner
    functionBody self inner
    let phrase ← phraseFrom start .function
    return (phrase, .function phrase.span name?)

/- What a method is called for. -/
inductive MethodSort where
  | plain
  | generator
  | asynchronous
  | asyncGenerator
  | getter
  | setter
deriving DecidableEq, Repr

namespace MethodSort

/- A method that is called under its name. -/
def ofMarks (isAsync isGenerator : Bool) : MethodSort :=
  match isAsync, isGenerator with
  | false, false => plain
  | false, true => generator
  | true, false => asynchronous
  | true, true => asyncGenerator

/- The method waits. -/
def isAsync (sort : MethodSort) : Bool :=
  sort == asynchronous || sort == asyncGenerator

/- The method yields. -/
def isGenerator (sort : MethodSort) : Bool :=
  sort == generator || sort == asyncGenerator

/- A getter takes no value and a setter takes one. -/
def allows
    (sort : MethodSort)
    (parameters : List ParameterSort) : Bool :=
  match sort with
  | getter => parameters.all (· == .receiver)
  | setter => parameters.filter (· != .receiver) == [.plain]
  | _ => true

end MethodSort

/- The words in front of the name of a method, except modifiers. -/
def methodMarks (isAsync : Bool) : Reader MethodSort := do
  if ← eat .star then
    return .ofMarks isAsync true
  if isAsync then
    return .asynchronous
  if ← isMemberModifier ["get"] then
    advance
    return .getter
  if ← isMemberModifier ["set"] then
    advance
    return .setter
  return .plain

/- The parameters and the body of a method, as a function. -/
def methodFunction
    (self : Grammar)
    (context : Context)
    (sort : MethodSort) : Reader Phrase :=
  declare [] do
    let start ← here
    let inner := context.body sort.isAsync sort.isGenerator
    let taken ← signature self inner
    unless sort.allows taken do
      refuse .misplaced
    functionBody self inner
    let phrase ← phraseFrom start .function
    return (phrase, .function phrase.span none)

/- The function of a method, inside what it is the value of. -/
def methodPhrase
    (self : Grammar)
    (context : Context)
    (sort : MethodSort)
    (holder : Construct) : Reader Unit := do
  discard <| valueIn holder (methodFunction self context sort)

------------------------------------------------------------
-- Arrow Functions
------------------------------------------------------------

/- The body of an arrow function, after its arrow. -/
def arrowBody
    (self : Grammar)
    (context : Context)
    (isAsync allowsArrowType : Bool) : Reader Unit := do
  if ← isAt .openBrace then
    block self (context.body isAsync false)
  else
    discard <| self (.assignment
      { context with awaits := isAsync, yields := false } allowsArrowType)

/- The arrow of an arrow function, on the line of its parameters. -/
def arrowSign : Reader Unit := do
  if ← isAfterLineEnd then
    unexpected
  expect .arrow

/-
  An arrow function with parentheses.  Inside a conditional
  expression, a colon after the parentheses can mean either a
  type or the other branch.  It means a type only if another
  colon follows the arrow function.
-/
def parenthesisedArrow
    (self : Grammar)
    (context : Context)
    (allowsArrowType : Bool) : Reader Phrase :=
  declare [] do
    let start ← here
    let isAsync ← eatWord "async"
    let inner :=
      { context with
        awaits := isAsync || context.awaits, allowsIn := true }
    optionalTypeParameters self inner
    discard <| parameters self inner
    let hasType ← isAt .colon
    returnType self inner
    arrowSign
    arrowBody self context isAsync allowsArrowType
    if hasType && !allowsArrowType then
      unless ← isAt .colon do
        unexpected
    let phrase ← phraseFrom start .arrow
    return (phrase, .arrow phrase.span)

/- Whether an arrow function follows. -/
inductive Likelihood where
  | no
  | maybe
  | yes
deriving DecidableEq, Repr

/- What follows an open parenthesis tells of an arrow function. -/
def likelihoodAfterParen : Reader Likelihood := do
  if ← eat .closeParen then
    if ← isAtAny [.arrow, .openBrace] then
      return .yes
    if ← isAt .colon then
      return .maybe
    return .no
  if ← isAtAny [.openBracket, .openBrace] then
    return .maybe
  if ← isAt .ellipsis then
    return .yes
  let isModifier ← isAtAnyWord parameterModifiers
  unless (← token).isVariable || (← isAtWord "this") do
    return .no
  advance
  if isModifier && (← token).isVariable then
    advance
    return if ← isAtWord "as" then .no else .yes
  if ← isAt .colon then
    return .yes
  if ← eat .question then
    return if ← isAtAny [.colon, .comma, .equals, .closeParen] then
      .yes
    else
      .no
  if ← isAtAny [.comma, .equals, .closeParen] then
    return .maybe
  return .no

/-
  What follows an open angle bracket tells of an arrow
  function with type parameters.  A comma, a default or a
  bound makes the difference to an element.
-/
def likelihoodAfterAngle : Reader Likelihood := do
  let isConst ← eatWord "const"
  unless (← token).isVariable do
    return .no
  advance
  if isConst && (← token).isVariable then
    advance
  if ← eatWord "extends" then
    return if ← isAtAny [.equals, .greater, .slash] then .no else .yes
  return if ← isAtAny [.comma, .equals] then .yes else .no

/- Whether an arrow function with parentheses is at hand. -/
def arrowLikelihood : Reader Likelihood := do
  let found ← looking do
    if ← eatWord "async" then
      if ← isAfterLineEnd then
        unexpected
    if ← eat .openParen then
      likelihoodAfterParen
    else if ← eat .less then
      likelihoodAfterAngle
    else
      return .no
  return found.getD .no

/- A name and an arrow are at hand, on one line after `async`. -/
def isAsyncArrowAhead : Reader Bool :=
  isAhead do
    expectWord "async"
    if (← isAfterLineEnd) || !(← token).isVariable then
      return false
    advance
    return (← isAt .arrow) && !(← isAfterLineEnd)

/- An arrow function whose parameter is a name after `async`. -/
def asyncNamedArrow
    (self : Grammar)
    (context : Context)
    (allowsArrowType : Bool) : Reader Phrase :=
  declare [] do
    let start ← here
    expectWord "async"
    discard <| bindingName { context with awaits := true }
    arrowSign
    arrowBody self context true allowsArrowType
    let phrase ← phraseFrom start .arrow
    return (phrase, .arrow phrase.span)

/- The rest of an arrow function whose parameter was read as a name. -/
def namedArrow
    (self : Grammar)
    (context : Context)
    (allowsArrowType : Bool)
    (start : Nat) : Reader Phrase :=
  declare [] do
    arrowSign
    arrowBody self context false allowsArrowType
    let phrase ← phraseFrom start .arrow
    return (phrase, .arrow phrase.span)

end MarkupLowering.Script
