import MarkupLowering.Script.Binding

/-
  This file reads types.  Nothing of a type reaches the
  outline, except what stands in the names and defaults inside
  it.

  Key definitions include:
    * `Script.typeParameters`
    * `Script.typeArguments`
    * `Script.returnType`
    * `Script.typeMembers`
    * `Script.typing`
-/

namespace MarkupLowering.Script

------------------------------------------------------------
-- Parameters and Arguments
------------------------------------------------------------

/- Words in front of a type parameter. -/
def skipTypeParameterModifiers : Reader Unit :=
  repeatFrom () fun _ => do
    let isModifier ← isAtAnyWord ["const", "in", "out"]
    let isFollowed ← isAhead do
      advance
      return (← token).isName && !(← isAtWord "extends")
    if isModifier && isFollowed then
      advance
      return .again ()
    else
      return .done ()

/- A type parameter with its bound and its default. -/
def typeParameter
    (self : Grammar)
    (context : Context) : Reader Unit := do
  skipTypeParameterModifiers
  discard <| bindingName { context with awaits := false, yields := false }
  if ← eatWord "extends" then
    discard <| self (.typing context true)
  if ← eat .equals then
    discard <| self (.typing context true)

/- Type parameters between angle brackets, at least one. -/
def typeParameters
    (self : Grammar)
    (context : Context) : Reader Unit := do
  expect .less
  if ← isAt .greater then
    unexpected
  discard <| listUntil .greater (typeParameter self context)

/- Type parameters, if there are any. -/
def optionalTypeParameters
    (self : Grammar)
    (context : Context) : Reader Unit := do
  if ← isAt .less then
    typeParameters self context

/- Type arguments between angle brackets, at least one. -/
def typeArguments
    (self : Grammar)
    (context : Context) : Reader Unit := do
  expect .less
  if ← isAt .greater then
    unexpected
  discard <| listUntil .greater do
    discard <| self (.typing context true)

/- Type arguments on the same line, if there are any. -/
def optionalTypeArguments
    (self : Grammar)
    (context : Context) : Reader Unit := do
  if (← isAt .less) && !(← isAfterLineEnd) then
    typeArguments self context

------------------------------------------------------------
-- References
------------------------------------------------------------

/- Names that dots join, after the first one. -/
def dottedNames : Reader Unit :=
  repeatFrom () fun _ => do
    if ← eat .dot then
      match ← token with
      | .privateName _ => advance
      | _ => discard anyName
      return .again ()
    else
      return .done ()

/- A reference to a type.  Keywords can be part of it. -/
def typeReference
    (self : Grammar)
    (context : Context) : Reader Unit := do
  discard anyName
  dottedNames
  optionalTypeArguments self context

/- Names of types that take no arguments. -/
def plainTypes : List String :=
  ["any", "unknown", "string", "number", "bigint", "symbol",
    "boolean", "undefined", "never", "object"]

/- The name of a type that takes no arguments is at hand. -/
def isPlainType : Reader Bool := do
  let isPlain ← isAtAnyWord plainTypes
  let isDotted ← isAhead do
    advance
    isAt .dot
  return isPlain && !isDotted

/- A type that a module exports, after the word `import`. -/
def importedType
    (self : Grammar)
    (context : Context) : Reader Unit := do
  expectWord "import"
  expect .openParen
  discard <| self (.typing context true)
  if ← eat .comma then
    unless ← isAt .closeParen do
      discard <| self (.assignment context.inside true)
      discard <| eat .comma
  expect .closeParen
  dottedNames
  optionalTypeArguments self context

/- The type of a variable, after the word `typeof`. -/
def typeQuery
    (self : Grammar)
    (context : Context) : Reader Unit := do
  expectWord "typeof"
  if ← isAtWord "import" then
    importedType self context
  else
    discard anyName
    dottedNames
    optionalTypeArguments self context

------------------------------------------------------------
-- Function Types
------------------------------------------------------------

/- A name and the word `is`, on one line. -/
def isPredicateAhead : Reader Bool :=
  isAhead do
    unless (← token).isVariable || (← isAtWord "this") do
      return false
    advance
    return (← isAtWord "is") && !(← isAfterLineEnd)

/- A type, or what a function tells of a parameter. -/
def typeOrPredicate
    (self : Grammar)
    (context : Context) : Reader Unit := do
  let isAssertion ← isAhead do
    expectWord "asserts"
    return ((← token).isVariable || (← isAtWord "this"))
      && !(← isAfterLineEnd)
  if isAssertion then
    advance
    advance
    if (← isAtWord "is") && !(← isAfterLineEnd) then
      advance
      discard <| self (.typing context true)
  else if ← isPredicateAhead then
    advance
    advance
    discard <| self (.typing context true)
  else
    discard <| self (.typing context true)

/- The type of what a function returns, after a colon. -/
def returnType
    (self : Grammar)
    (context : Context) : Reader Unit := do
  if ← eat .colon then
    typeOrPredicate self context

/- The parentheses at hand begin the parameters of a function type. -/
def isFunctionTypeAhead
    (self : Grammar)
    (context : Context) : Reader Bool :=
  isAhead do
    expect .openParen
    if ← isAtAny [.closeParen, .ellipsis] then
      return true
    skipParameterModifiers
    if (← token).isVariable || (← isAtWord "this") then
      advance
    else if ← isAtAny [.openBrace, .openBracket] then
      discard <| self (.pattern context)
    else
      return false
    if ← isAtAny [.colon, .comma, .question, .equals] then
      return true
    if ← eat .closeParen then
      isAt .arrow
    else
      return false

/- The type of a function or of a constructor. -/
def functionType
    (self : Grammar)
    (context : Context) : Reader Unit := do
  discard <| eatWord "abstract"
  discard <| eatWord "new"
  optionalTypeParameters self context
  discard <| parameters self context
  expect .arrow
  typeOrPredicate self context

------------------------------------------------------------
-- Members
------------------------------------------------------------

/- The end of a member of a type. -/
def endTypeMember : Reader Unit := do
  if ← eat .comma then
    return
  endStatement

/- The bracket at hand begins an index and not a computed name. -/
def isIndexAhead : Reader Bool :=
  isAhead do
    expect .openBracket
    if ← isAtAny [.ellipsis, .closeBracket] then
      return true
    unless (← token).isVariable do
      return false
    advance
    if (← token).isVariable then
      return true
    if ← isAtAny [.colon, .comma] then
      return true
    unless ← eat .question do
      return false
    isAtAny [.colon, .comma, .closeBracket]

/- The parameters of an index and its type. -/
def indexSignature
    (self : Grammar)
    (context : Context) : Reader Unit := do
  expect .openBracket
  discard <| listUntil .closeBracket (parameter self context)
  typeAnnotation self context

/- The token can begin the name of a member. -/
def isMemberName : Reader Bool := do
  match ← token with
  | .name _ _ => return true
  | .text _ => return true
  | .number _ _ => return true
  | .privateName _ => return true
  | .punct .openBracket => return true
  | _ => return false

/- The word at hand modifies a member that follows. -/
def isMemberModifier (words : List String) : Reader Bool := do
  let isWord ← isAtAnyWord words
  let isFollowed ← isAhead do
    advance
    isMemberName
  return isWord && isFollowed

/- The parameters and types of a function, without its body. -/
def signature
    (self : Grammar)
    (context : Context) : Reader (List ParameterSort) := do
  optionalTypeParameters self context
  let sorts ← parameters self context
  returnType self context
  return sorts

/- A member of an object type or an interface. -/
def typeMember
    (self : Grammar)
    (context : Context) : Reader Unit := do
  let isConstructor ← isAhead do
    expectWord "new"
    isAtAny [.openParen, .less]
  if ← isAtAny [.openParen, .less] then
    discard <| signature self context
  else if isConstructor then
    advance
    discard <| signature self context
  else
    if ← isMemberModifier ["readonly"] then
      advance
    if ← isMemberModifier ["get", "set"] then
      advance
      discard <| propertyName self context
      discard <| signature self context
    else if ← isIndexAhead then
      indexSignature self context
    else
      discard <| propertyName self context
      discard <| eat .question
      if ← isAtAny [.openParen, .less] then
        discard <| signature self context
      else
        typeAnnotation self context
  endTypeMember

/- The members of an object type or an interface, with its braces. -/
def typeMembers
    (self : Grammar)
    (context : Context) : Reader Unit := do
  expect .openBrace
  repeatFrom () fun _ => do
    if ← isAt .closeBrace then
      return .done ()
    typeMember self context
    return .again ()
  expect .closeBrace

/- The brace at hand begins a mapped type. -/
def isMappedTypeAhead : Reader Bool :=
  isAhead do
    expect .openBrace
    if ← isAtAny [.plus, .minus] then
      advance
      return ← isAtWord "readonly"
    discard <| eatWord "readonly"
    expect .openBracket
    discard anyName
    isAtWord "in"

/- A type given for each of some names. -/
def mappedType
    (self : Grammar)
    (context : Context) : Reader Unit := do
  expect .openBrace
  if ← isAtAny [.plus, .minus] then
    advance
  discard <| eatWord "readonly"
  expect .openBracket
  discard anyName
  expectWord "in"
  discard <| self (.typing context true)
  if ← eatWord "as" then
    discard <| self (.typing context true)
  expect .closeBracket
  if ← isAtAny [.plus, .minus] then
    advance
  discard <| eat .question
  typeAnnotation self context
  discard <| eat .semicolon
  discard <| eat .comma
  expect .closeBrace

/- An item of a tuple type, which may have a name. -/
def tupleItem
    (self : Grammar)
    (context : Context) : Reader Unit := do
  discard <| eat .ellipsis
  let isNamed ← isAhead do
    discard anyName
    discard <| eat .question
    isAt .colon
  if isNamed then
    advance
    discard <| eat .question
    expect .colon
  discard <| self (.typing context true)
  discard <| eat .question

------------------------------------------------------------
-- Types
------------------------------------------------------------

/- A template in which types stand. -/
def templateType
    (self : Grammar)
    (context : Context) : Reader Unit :=
  repeatFrom () fun _ => do
    match ← token with
    | .template _ _ true =>
        advance
        return .done ()
    | .template _ _ false =>
        advance
        discard <| self (.typing context true)
        unless ← isAt .closeBrace do
          unexpected
        rereadBy readTemplate
        return .again ()
    | _ => unexpected

/- A type without operators. -/
def simpleType
    (self : Grammar)
    (context : Context) : Reader Unit := do
  match ← token with
  | .text _ => advance
  | .number _ _ => advance
  | .template _ _ _ => templateType self context
  | .punct .minus =>
      advance
      match ← token with
      | .number _ _ => advance
      | _ => unexpected
  | .punct .openBrace =>
      if ← isMappedTypeAhead then
        mappedType self context
      else
        typeMembers self context
  | .punct .openBracket =>
      advance
      discard <| listUntil .closeBracket (tupleItem self context)
  | .punct .openParen =>
      advance
      discard <| self (.typing context true)
      expect .closeParen
  | .name _ _ =>
      if ← isAtAnyWord ["void", "null", "true", "false"] then
        advance
      else if ← isAtWord "this" then
        advance
        if (← isAtWord "is") && !(← isAfterLineEnd) then
          advance
          discard <| self (.typing context true)
      else if ← isAtWord "typeof" then
        typeQuery self context
      else if ← isAtWord "import" then
        importedType self context
      else if ← isPlainType then
        advance
      else
        typeReference self context
  | _ => unexpected

/- A type with array and index brackets after it. -/
def suffixedType
    (self : Grammar)
    (context : Context) : Reader Unit := do
  simpleType self context
  repeatFrom () fun _ => do
    if (← isAt .openBracket) && !(← isAfterLineEnd) then
      advance
      unless ← eat .closeBracket do
        discard <| self (.typing context true)
        expect .closeBracket
      return .again ()
    else
      return .done ()

/- The bound of an inferred type, where no condition follows it. -/
def inferredBound
    (self : Grammar)
    (context : Context)
    (allowsConditional : Bool) : Reader Unit := do
  discard <| attempt do
    expectWord "extends"
    discard <| self (.typing context false)
    if allowsConditional && (← isAt .question) then
      unexpected

/- A type with operators in front of it. -/
def operatorType
    (self : Grammar)
    (context : Context)
    (allowsConditional : Bool) : Reader Unit := do
  repeatFrom () fun _ => do
    if ← isAtAnyWord ["keyof", "unique", "readonly"] then
      advance
      return .again ()
    else
      return .done ()
  if ← eatWord "infer" then
    discard <|
      bindingName { context with awaits := false, yields := false }
    inferredBound self context allowsConditional
  else
    suffixedType self context

/- The token at hand begins the type of a function. -/
def isFunctionType
    (self : Grammar)
    (context : Context) : Reader Bool := do
  if (← isAt .less) || (← isAtWord "new") then
    return true
  if ← isAhead (do
      expectWord "abstract"
      isAtWord "new") then
    return true
  isFunctionTypeAhead self context

/- Types that a punctuator joins, which may also stand in front. -/
def joinedTypes
    (joint : Punct)
    (item : Reader Unit) : Reader Unit := do
  discard <| eat joint
  repeatFrom () fun _ => do
    item
    if ← eat joint then
      return .again ()
    else
      return .done ()

/- A type. -/
def typing
    (self : Grammar)
    (context : Context)
    (allowsConditional : Bool) : Reader Phrase := do
  let start ← here
  let context := { context with allowsIn := true }
  let operand : Reader Unit := do
    if ← isFunctionType self context then
      functionType self context
    else
      operatorType self context allowsConditional
  joinedTypes .bar (joinedTypes .ampersand operand)
  if allowsConditional && (← isAtWord "extends")
      && !(← isAfterLineEnd) then
    advance
    discard <| self (.typing context false)
    expect .question
    discard <| self (.typing context true)
    expect .colon
    discard <| self (.typing context true)
  phraseFrom start .other

end MarkupLowering.Script
