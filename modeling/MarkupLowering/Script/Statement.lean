import MarkupLowering.Script.Exchange
import MarkupLowering.Script.Expression

/-
  This file reads statements.

  Key definitions include:
    * `Script.forStatement`
    * `Script.switchStatement`
    * `Script.tryStatement`
    * `Script.wordStatement`
    * `Script.statement`
-/

namespace MarkupLowering.Script

------------------------------------------------------------
-- Parts of Statements
------------------------------------------------------------

/- A statement that does not stand in a list. -/
def innerStatement
    (self : Grammar)
    (context : Context) : Reader Unit :=
  discard <| self (.statement context .alone)

/- A condition between parentheses. -/
def condition
    (self : Grammar)
    (context : Context) : Reader Unit := do
  expect .openParen
  discard <| self (.expression context.inside)
  expect .closeParen

/- An expression up to a punctuator, if there is one. -/
def expressionBefore
    (self : Grammar)
    (context : Context)
    (close : Punct) : Reader Unit := do
  unless ← isAt close do
    discard <| self (.expression context.inside)
  expect close

------------------------------------------------------------
-- Loops
------------------------------------------------------------

/- The head of a loop, after the word `in` or `of`. -/
def loopOver
    (self : Grammar)
    (context : Context) : Reader Unit := do
  if ← eatWord "of" then
    discard <| self (.assignment context.inside true)
  else
    expectWord "in"
    discard <| self (.expression context.inside)
  expect .closeParen

/- The head of a loop, after its first part. -/
def loopRest
    (self : Grammar)
    (context : Context)
    (isAwaiting : Bool) : Reader Unit := do
  if (← isAtWord "of") || ((← isAtWord "in") && !isAwaiting) then
    loopOver self context
  else if isAwaiting then
    unexpected
  else
    expect .semicolon
    expressionBefore self context .semicolon
    expressionBefore self context .closeParen

/- The target of a loop, if the expression is one. -/
def loopTarget (phrase : Phrase) : Reader Unit := do
  if (← isAtWord "of") || (← isAtWord "in") then
    unless phrase.form.isTarget do
      refuse .invalidTarget
    modify fun cursor =>
      { cursor with
        defaults := cursor.defaults.filter fun offset =>
          !(phrase.span.start ≤ offset && offset < phrase.span.stop) }

/- The words `async of` cannot begin the head of a loop. -/
def isAsyncOf : Reader Bool :=
  isAhead do
    expectWord "async"
    expectWord "of"
    return !(← isAt .arrow)

/- The first part of the head of a loop. -/
def loopStart
    (self : Grammar)
    (context : Context)
    (isAwaiting : Bool) : Reader Unit := do
  let headContext := { context with allowsIn := false }
  if ← isAt .semicolon then
    return
  match ← variableSort? with
  | some (sort, wordCount) =>
      declarators self headContext sort wordCount true
  | none =>
      if !isAwaiting && (← isAsyncOf) then
        unexpected
      let phrase ← self (.expression headContext)
      loopTarget phrase

/- A loop that begins with the word `for`. -/
def forStatement
    (self : Grammar)
    (context : Context) : Reader Unit := do
  expectWord "for"
  let isAwaiting ← isAtWord "await"
  if isAwaiting then
    unless context.awaits do
      refuse .misplaced
    advance
  expect .openParen
  loopStart self context isAwaiting
  loopRest self context isAwaiting
  innerStatement self context

/- A loop whose condition comes last. -/
def doStatement
    (self : Grammar)
    (context : Context) : Reader Unit := do
  expectWord "do"
  innerStatement self context
  expectWord "while"
  condition self context
  discard <| eat .semicolon

------------------------------------------------------------
-- Branches
------------------------------------------------------------

/- A choice of one or two statements. -/
def ifStatement
    (self : Grammar)
    (context : Context) : Reader Unit := do
  expectWord "if"
  condition self context
  innerStatement self context
  if ← eatWord "else" then
    innerStatement self context

/- The statements of a case. -/
def caseStatements
    (self : Grammar)
    (context : Context) : Reader Unit :=
  repeatFrom () fun _ => do
    if (← isAt .closeBrace) || (← isAtAnyWord ["case", "default"]) then
      return .done ()
    discard <| self (.statement context .inList)
    return .again ()

/- A choice of cases. -/
def switchStatement
    (self : Grammar)
    (context : Context) : Reader Unit := do
  expectWord "switch"
  condition self context
  expect .openBrace
  repeatFrom () fun _ => do
    if ← isAt .closeBrace then
      return .done ()
    unless ← eatWord "default" do
      expectWord "case"
      discard <| self (.expression context.inside)
    expect .colon
    caseStatements self context
    return .again ()
  expect .closeBrace

/- What is done if a block fails, and what is done after it. -/
def tryStatement
    (self : Grammar)
    (context : Context) : Reader Unit := do
  expectWord "try"
  block self context
  let hasCatch ← eatWord "catch"
  if hasCatch then
    if ← eat .openParen then
      discard <| self (.pattern context)
      typeAnnotation self context
      expect .closeParen
    block self context
  if ← eatWord "finally" then
    block self context
  else
    unless hasCatch do
      unexpected

------------------------------------------------------------
-- Leaving
------------------------------------------------------------

/- A statement with a label on the same line, if there is one. -/
def jumpStatement : Reader Unit := do
  advance
  if (← token).isVariable && !(← isAfterLineEnd) then
    advance
  endStatement

/- What a function returns. -/
def returnStatement
    (self : Grammar)
    (context : Context) : Reader Unit := do
  unless context.returns do
    refuse .misplaced
  expectWord "return"
  unless
      (← isAtAny [.semicolon, .closeBrace]) || (← isAtFinish)
        || (← isAfterLineEnd) do
    discard <| self (.expression context.inside)
  endStatement

/- What is thrown, on the same line. -/
def throwStatement
    (self : Grammar)
    (context : Context) : Reader Unit := do
  expectWord "throw"
  if ← isAfterLineEnd then
    unexpected
  discard <| self (.expression context.inside)
  endStatement

------------------------------------------------------------
-- Statements
------------------------------------------------------------

/-
  An expression as a statement, or a label and its statement.
  The form of the expression is kept, since a text may be a
  directive.
-/
def expressionStatement
    (self : Grammar)
    (context : Context) : Reader Phrase := do
  let start ← here
  let phrase ← expression self context.inside
  match phrase.form with
  | .name _ =>
      if ← eat .colon then
        innerStatement self context
      else
        endStatement
      phraseFrom start .other
  | form =>
      endStatement
      phraseFrom start form

/- Decorators and the class after them, which may be exported. -/
def decoratedStatement
    (self : Grammar)
    (context : Context) : Reader Unit := do
  let (_, earlier) ← gather (decorators self context)
  if ← isAtWord "export" then
    exportStatement self context earlier
  else
    discard <| classPhrase self context earlier true

/- The declaration may stand alone, outside a list of statements. -/
def mayStandAlone : DeclarationStart → Bool
  | .ofClass => false
  | .ofVariables sort _ => sort == .changing
  | _ => true

/- A function that waits or yields is at hand. -/
def isSpecialFunction : Reader Bool :=
  isAhead do
    let isAsync ← eatWord "async"
    expectWord "function"
    return isAsync || (← isAt .star)

/- A declaration or an expression as a statement. -/
def otherStatement
    (self : Grammar)
    (context : Context)
    (place : StatementPlace) : Reader Phrase := do
  let start ← here
  if place == .alone then
    let isRefused ← isAhead do
      match ← declarationStart? with
      | some found => return !mayStandAlone found
      | none => return false
    if isRefused || (← isSpecialFunction) then
      refuse .misplaced
  match ← declaration? self context with
  | some _ => phraseFrom start .other
  | none => expressionStatement self context

/- A statement that begins with a keyword, if one is at hand. -/
def wordStatement?
    (self : Grammar)
    (context : Context)
    (word : String) : Option (Reader Unit) :=
  match word with
  | "if" => some (ifStatement self context)
  | "for" => some (forStatement self context)
  | "while" => some do
      advance
      condition self context
      innerStatement self context
  | "do" => some (doStatement self context)
  | "switch" => some (switchStatement self context)
  | "try" => some (tryStatement self context)
  | "return" => some (returnStatement self context)
  | "throw" => some (throwStatement self context)
  | "break" => some jumpStatement
  | "continue" => some jumpStatement
  | "debugger" => some do
      advance
      endStatement
  | "with" => some do
      advance
      condition self context
      innerStatement self context
  | "export" => some (exportStatement self context [])
  | _ => none

/- A statement. -/
def statement
    (self : Grammar)
    (context : Context)
    (place : StatementPlace) : Reader Phrase := do
  let start ← here
  let context := { context with allowsIn := true, inDecorator := false }
  match ← token with
  | .punct .openBrace =>
      block self context
      phraseFrom start .other
  | .punct .semicolon =>
      advance
      phraseFrom start .other
  | .punct .atSign =>
      decoratedStatement self context
      phraseFrom start .other
  | current =>
      match current.word?.bind (wordStatement? self context) with
      | some reader =>
          reader
          phraseFrom start .other
      | none =>
          if ← isImportStatement then
            importStatement self context
            phraseFrom start .other
          else
            otherStatement self context place

end MarkupLowering.Script
