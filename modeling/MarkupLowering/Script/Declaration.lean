import MarkupLowering.Script.Class
import MarkupLowering.Script.Variable

/-
  This file reads declarations: functions, classes, variables,
  and what only describes types and modules.

  Key definitions include:
    * `Script.interfaceDeclaration`
    * `Script.typeAlias`
    * `Script.enumeration`
    * `Script.moduleBlock`
    * `Script.isDeclaration`
    * `Script.declaration`
-/

namespace MarkupLowering.Script

------------------------------------------------------------
-- Types
------------------------------------------------------------

/- The types that an interface extends, divided by commas. -/
def extendedTypes
    (self : Grammar)
    (context : Context) : Reader Unit :=
  repeatFrom () fun _ => do
    typeReference self context
    if ← eat .comma then
      return .again ()
    else
      return .done ()

/- An interface. -/
def interfaceDeclaration
    (self : Grammar)
    (context : Context) : Reader Unit := do
  expectWord "interface"
  discard <| bindingName context
  optionalTypeParameters self context
  if ← eatWord "extends" then
    extendedTypes self context
  typeMembers self context

/- A name for a type. -/
def typeAlias
    (self : Grammar)
    (context : Context) : Reader Unit := do
  expectWord "type"
  discard <| bindingName context
  optionalTypeParameters self context
  expect .equals
  discard <| self (.typing context true)
  endStatement

/- The name of a member of an enumeration. -/
def enumerationName : Reader Unit := do
  if ← eat .openBracket then
    match ← token with
    | .text _ => advance
    | .template _ _ true => advance
    | _ => unexpected
    expect .closeBracket
  else
    match ← token with
    | .name _ _ => advance
    | .text _ => advance
    | _ => unexpected

/- An enumeration. -/
def enumeration
    (self : Grammar)
    (context : Context) : Reader Unit := do
  discard <| eatWord "const"
  expectWord "enum"
  discard <| bindingName context
  expect .openBrace
  discard <| listUntil .closeBrace do
    enumerationName
    defaultValue self context.inside

------------------------------------------------------------
-- Modules
------------------------------------------------------------

/-
  A module inside a module, after its first word.  One that is
  described by the text of its source may lack statements.
-/
def moduleBlock
    (self : Grammar)
    (context : Context) : Reader Unit := do
  match ← token with
  | .text _ =>
      advance
      if ← isAt .openBrace then
        block self context
      else
        endStatement
  | _ =>
      discard <| bindingName context
      dottedNames
      block self context

/- What the global scope is said to hold. -/
def globalBlock
    (self : Grammar)
    (context : Context) : Reader Unit := do
  expectWord "global"
  block self context

/- A name for a module or for a part of one. -/
def importAlias
    (self : Grammar)
    (context : Context) : Reader Unit := do
  discard <| bindingName context
  expect .equals
  let isRequire ← isAhead do
    expectWord "require"
    isAt .openParen
  if isRequire then
    advance
    expect .openParen
    match ← token with
    | .text _ => advance
    | _ => unexpected
    expect .closeParen
  else
    typeReference self context
  endStatement

------------------------------------------------------------
-- Declarations
------------------------------------------------------------

/- A word and, on the same line, a name. -/
def isWordAndName (word : String) : Reader Bool :=
  isAhead do
    expectWord word
    return (← token).isVariable && !(← isAfterLineEnd)

/- The words `namespace` or `module` at hand begin a module. -/
def isModuleBlock : Reader Bool :=
  isAhead do
    unless ← isAtAnyWord ["namespace", "module"] do
      unexpected
    advance
    if ← isAfterLineEnd then
      return false
    match ← token with
    | .text _ => return true
    | current => return current.isVariable

/- The words `abstract class` are at hand, on one line. -/
def isAbstractClass : Reader Bool :=
  isAhead do
    expectWord "abstract"
    return (← isAtWord "class") && !(← isAfterLineEnd)

/- The words `const enum` are at hand. -/
def isConstEnumeration : Reader Bool :=
  isAhead do
    expectWord "const"
    isAtWord "enum"

/- The sort of a declaration that begins at hand. -/
inductive DeclarationStart where
  | function
  | ofClass
  | interface
  | typeAlias
  | enumeration
  | moduleBlock
  | globalBlock
  | ofVariables (sort : VariableSort) (wordCount : Nat)
deriving DecidableEq, Repr

/- The declaration that begins at hand, without the word `declare`. -/
def declarationStart? : Reader (Option DeclarationStart) := do
  if (← isAtWord "function") || (← isAsyncFunctionAhead) then
    return some .function
  if (← isAtWord "class") || (← isAbstractClass) then
    return some .ofClass
  if ← isWordAndName "interface" then
    return some .interface
  if ← isWordAndName "type" then
    return some .typeAlias
  if (← isAtWord "enum") || (← isConstEnumeration) then
    return some .enumeration
  if ← isModuleBlock then
    return some .moduleBlock
  if ← isAhead (do
      expectWord "global"
      isAt .openBrace) then
    return some .globalBlock
  match ← variableSort? with
  | some (sort, wordCount) => return some (.ofVariables sort wordCount)
  | none => return none

/- The word `declare` at hand describes a declaration on the same line. -/
def isDescription : Reader Bool :=
  isAhead do
    expectWord "declare"
    if ← isAfterLineEnd then
      return false
    return (← declarationStart?).isSome

/- A declaration. -/
def declarationFrom
    (self : Grammar)
    (context : Context) : DeclarationStart → Reader Unit
  | .function => discard <| functionPhrase self context .statement
  | .ofClass => discard <| classPhrase self context [] true
  | .interface => interfaceDeclaration self context
  | .typeAlias => typeAlias self context
  | .enumeration => enumeration self context
  | .moduleBlock => do
      advance
      moduleBlock self context
  | .globalBlock => globalBlock self context
  | .ofVariables sort wordCount =>
      variableStatement self context sort wordCount

/- A declaration, which may be a description of one that is elsewhere. -/
def declaration?
    (self : Grammar)
    (context : Context) : Reader (Option DeclarationStart) := do
  let isDescribed ← isDescription
  if isDescribed then
    advance
  let context :=
    { context with
      isAmbient := context.isAmbient || isDescribed }
  match ← declarationStart? with
  | some start =>
      declarationFrom self context start
      return some start
  | none => return none

end MarkupLowering.Script
