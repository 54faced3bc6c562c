import MarkupLowering.Script.Declaration

/-
  This file reads what a module imports and exports.

  Key definitions include:
    * `Script.moduleSource`
    * `Script.specifier`
    * `Script.importStatement`
    * `Script.exportStatement`
-/

namespace MarkupLowering.Script

------------------------------------------------------------
-- Specifiers
------------------------------------------------------------

/- A text. -/
def textToken : Reader Unit := do
  match ← token with
  | .text _ => advance
  | _ => unexpected

/- The attributes of an import, after its source. -/
def importAttributes : Reader Unit := do
  if (← isAtWord "with")
      || ((← isAtWord "assert") && !(← isAfterLineEnd)) then
    advance
    expect .openBrace
    discard <| listUntil .closeBrace do
      match ← token with
      | .name _ _ => advance
      | .text _ => advance
      | _ => unexpected
      expect .colon
      textToken

/- The module that is imported from, with its attributes. -/
def moduleSource : Reader Unit := do
  textToken
  importAttributes
  endStatement

/- The word `from` and the module that is imported from. -/
def fromModule : Reader Unit := do
  expectWord "from"
  moduleSource

/- A name that a module may export. -/
inductive ExportedName where
  | variable
  | keyword
  | text
deriving DecidableEq, Repr

/- Read a name that a module may export. -/
def exportedName : Reader ExportedName := do
  match ← token with
  | .text _ =>
      advance
      return .text
  | .name word _ =>
      advance
      return if isReserved word then .keyword else .variable
  | _ => unexpected

/- The word `type` at hand marks a specifier and does not name one. -/
def isTypeMark : Reader Bool :=
  isAhead do
    expectWord "type"
    if ← eatWord "as" then
      if ← eatWord "as" then
        return (← token).isName
      else
        isAtAny [.comma, .closeBrace]
    else
      match ← token with
      | .text _ => return true
      | current => return current.isName

/- The name inside the module and the name outside of a specifier. -/
def specifier : Reader (ExportedName × ExportedName) := do
  if ← isTypeMark then
    advance
  let first ← exportedName
  if ← eatWord "as" then
    return (first, ← exportedName)
  else
    return (first, first)

/- The specifiers of an import. -/
def importedNames : Reader Unit := do
  expect .openBrace
  let names ← listUntil .closeBrace specifier
  unless names.all fun name => name.2 == .variable do
    refuse .misplaced

/- All of a module, under a name. -/
def importedAll (context : Context) : Reader Unit := do
  expect .star
  expectWord "as"
  discard <| bindingName context

------------------------------------------------------------
-- Imports
------------------------------------------------------------

/- The word at hand says in what way a module is imported. -/
def isImportMark : Reader Bool :=
  isAhead do
    if ← isAtWord "type" then
      advance
      if ← isAtWord "from" then
        advance
        return (← isAtWord "from") || (← isAt .equals)
      return (← token).isVariable || (← isAtAny [.openBrace, .star])
    else if ← isAtWord "defer" then
      advance
      isAt .star
    else if ← isAtWord "source" then
      advance
      if ← isAtWord "from" then
        advance
        isAtWord "from"
      else
        return (← token).isVariable
    else
      return false

/- The word at hand names a module or a part of one. -/
def isImportAlias : Reader Bool :=
  isAhead do
    advance
    isAt .equals

/- The names that an import introduces. -/
def importClause (context : Context) : Reader Unit := do
  if ← isAt .star then
    importedAll context
  else if ← isAt .openBrace then
    importedNames
  else
    discard <| bindingName context
    if ← eat .comma then
      if ← isAt .star then
        importedAll context
      else
        importedNames

/- An import, after its first word. -/
def importRest
    (self : Grammar)
    (context : Context) : Reader Unit := do
  match ← token with
  | .text _ => moduleSource
  | _ =>
      if ← isImportMark then
        advance
      if ← isImportAlias then
        importAlias self context
      else
        importClause context
        fromModule

/- The word `import` at hand begins a statement. -/
def isImportStatement : Reader Bool :=
  isAhead do
    expectWord "import"
    return !(← isAtAny [.openParen, .dot])

/- An import. -/
def importStatement
    (self : Grammar)
    (context : Context) : Reader Unit := do
  expectWord "import"
  importRest self context

------------------------------------------------------------
-- Exports
------------------------------------------------------------

/- Specifiers that are exported, from this module or another one. -/
def exportedNames : Reader Unit := do
  expect .openBrace
  let names ← listUntil .closeBrace specifier
  if ← isAtWord "from" then
    fromModule
  else
    unless names.all fun name => name.1 == .variable do
      refuse .misplaced
    endStatement

/- All of another module, perhaps under a name. -/
def exportedAll : Reader Unit := do
  expect .star
  if ← eatWord "as" then
    discard exportedName
  fromModule

/- What a module exports by default, after the word `default`. -/
def exportedDefault
    (self : Grammar)
    (context : Context)
    (earlier : List (Piece Construct)) : Reader Unit := do
  if (← isAtWord "class") || (← isAbstractClass) || (← isAt .atSign) then
    discard <| classPhrase self context earlier false
  else if (← isAtWord "function") || (← isAsyncFunctionAhead) then
    discard <| functionPhrase self context .exportedDefault
  else if ← isWordAndName "interface" then
    interfaceDeclaration self context
  else
    discard <| self (.assignment context.inside true)
    endStatement

/- The word `type` at hand marks names that are exported. -/
def isTypeExport : Reader Bool :=
  isAhead do
    expectWord "type"
    isAtAny [.openBrace, .star]

/-
  An export.  A class may take decorators that stand before
  the word `export`.
-/
def exportStatement
    (self : Grammar)
    (context : Context)
    (earlier : List (Piece Construct)) : Reader Unit := do
  expectWord "export"
  if ← isTypeExport then
    advance
  if ← eat .equals then
    discard <| self (.expression context)
    endStatement
  else if ← isAt .star then
    exportedAll
  else if ← isAt .openBrace then
    exportedNames
  else if ← eatWord "default" then
    exportedDefault self context earlier
  else if ← eatWord "as" then
    expectWord "namespace"
    discard <| bindingName context
    endStatement
  else if ← eatWord "import" then
    importRest self context
  else if (← isAtWord "class") || (← isAbstractClass)
      || (← isAt .atSign) then
    discard <| classPhrase self context earlier true
  else
    match ← declaration? self context with
    | some _ => return
    | none => unexpected

end MarkupLowering.Script
