import MarkupLowering.Script.Typing

/-
  This file reads declarations of variables.

  Key definitions include:
    * `Script.VariableSort`
    * `Script.declarator`
    * `Script.variableSort?`
    * `Script.declarators`
-/

namespace MarkupLowering.Script

------------------------------------------------------------
-- Declarators
------------------------------------------------------------

/- How a variable is declared. -/
inductive VariableSort where
  | changing
  | blockScoped
  | constant
  | resource
deriving DecidableEq, Repr

/- The variable must have a value from the start. -/
def VariableSort.needsValue : VariableSort → Bool
  | changing => false
  | blockScoped => false
  | constant => true
  | resource => true

/- The name of a variable that is no pattern. -/
def Form.name? : Form → Option String
  | name word => some word
  | _ => none

/- The value of a variable, after the equals sign. -/
def variableValue
    (self : Grammar)
    (context : Context)
    (target : Form) : Reader Unit := do
  discard <|
    valueIn (.binding target.name?)
      (self (.assignment context true))

/- The variable of a declarator may stand without a value. -/
def mayLackValue
    (context : Context)
    (sort : VariableSort)
    (isLoopHead : Bool)
    (target : Form) : Bool :=
  match target with
  | .name _ => isLoopHead || context.isAmbient || !sort.needsValue
  | _ => isLoopHead || context.isAmbient

/- A variable, or a pattern of variables, with type and value. -/
def declarator
    (self : Grammar)
    (context : Context)
    (sort : VariableSort)
    (isLoopHead : Bool) : Reader Unit := do
  let target ← self (.pattern context)
  if (← isAt .bang) && !(← isAfterLineEnd) then
    advance
  typeAnnotation self context
  if ← eat .equals then
    variableValue self context target.form
  else
    unless mayLackValue context sort isLoopHead target.form do
      refuse .misplaced

------------------------------------------------------------
-- Declarations
------------------------------------------------------------

/- Punctuators after which the word `let` is a name. -/
def punctsAfterName : List Punct :=
  [.dot, .openParen, .semicolon, .equals, .compoundAssign,
    .slashAssign, .less, .greater, .plus, .minus, .star, .slash,
    .percent, .power, .ampersand, .bar, .caret, .equality,
    .conjunction, .disjunction, .coalesce]

/- The word `let` at hand begins a declaration. -/
def isLetDeclaration : Reader Bool :=
  isAhead do
    expectWord "let"
    return !(← isAtAnyWord ["in", "instanceof"])
      && !(← isAtAny punctsAfterName)

/- The word `using` at hand begins a declaration. -/
def isUsingDeclaration : Reader Bool :=
  isAhead do
    if (← eatWord "await") && (← isAfterLineEnd) then
      return false
    expectWord "using"
    return (← token).isVariable && !(← isAfterLineEnd)
      && !(← isAtWord "of")

/- The declaration of variables at hand, with the number of its words. -/
def variableSort? : Reader (Option (VariableSort × Nat)) := do
  match (← token).word? with
  | some "var" => return some (.changing, 1)
  | some "const" => return some (.constant, 1)
  | some "let" =>
      return if ← isLetDeclaration then
        some (.blockScoped, 1)
      else
        none
  | some "using" =>
      return if ← isUsingDeclaration then
        some (.resource, 1)
      else
        none
  | some "await" =>
      return if ← isUsingDeclaration then
        some (.resource, 2)
      else
        none
  | _ => return none

/- Pass some tokens. -/
def advanceTimes : Nat → Reader Unit
  | 0 => return
  | count + 1 => do
      advance
      advanceTimes count

/- Variables from the words that declare them on. -/
def declarators
    (self : Grammar)
    (context : Context)
    (sort : VariableSort)
    (wordCount : Nat)
    (isLoopHead : Bool) : Reader Unit := do
  advanceTimes wordCount
  repeatFrom () fun _ => do
    declarator self context sort isLoopHead
    if ← eat .comma then
      return .again ()
    else
      return .done ()

/- A statement that declares variables. -/
def variableStatement
    (self : Grammar)
    (context : Context)
    (sort : VariableSort)
    (wordCount : Nat) : Reader Unit := do
  declarators self context sort wordCount false
  endStatement

end MarkupLowering.Script
