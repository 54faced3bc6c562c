import MarkupLowering.Script.Function

/-
  This file reads classes.

  Key definitions include:
    * `Script.superclassOf`
    * `Script.classMember`
    * `Script.classPhrase`
-/

namespace MarkupLowering.Script

------------------------------------------------------------
-- Heritage
------------------------------------------------------------

/- What a class extends, by the form of the expression. -/
def superclassOf (span : Span) : Form → Superclass
  | .name word => .name word
  | .array elements _ => .array elements
  | .staticMember => .member span
  | _ => .other

/-
  What a class extends.  Type arguments that were read with
  the expression are left out.
-/
def superclass (phrase : Phrase) : Superclass :=
  match phrase.form with
  | .instantiation inner span => superclassOf span inner
  | form => superclassOf phrase.span form

/- An interface that a class implements. -/
def implemented
    (self : Grammar)
    (context : Context) : Reader Span := do
  let start ← here
  typeReference self context
  spanFrom start

/- What a class implements, divided by commas. -/
def implementedAll
    (self : Grammar)
    (context : Context) : Reader (List Span) :=
  repeatFrom [] fun found => do
    let found := (← implemented self context) :: found
    if ← eat .comma then
      return .again found
    else
      return .done found.reverse

/- What a class extends and implements. -/
structure Heritage where
  superclass : Option Superclass
  interfaces : List Span

/- The clauses between the name of a class and its body. -/
def heritage
    (self : Grammar)
    (context : Context) : Reader Heritage := do
  let extended ←
    if ← eatWord "extends" then
      let phrase ← self (.leftHand context)
      if ← isAt .less then
        typeArguments self context
      pure (some (superclass phrase))
    else
      pure none
  let interfaces ←
    if ← eatWord "implements" then
      implementedAll self context
    else
      pure []
  return ⟨extended, interfaces⟩

------------------------------------------------------------
-- Members
------------------------------------------------------------

/- Words in front of a member of a class. -/
def memberModifiers : List String :=
  ["public", "private", "protected", "static", "abstract",
    "override", "readonly", "declare", "async", "accessor"]

/-
  The word at hand modifies a member that follows.  All but
  the word `static` do so only on one line.
-/
def memberModifier? : Reader (Option String) := do
  match (← token).word? with
  | none => return none
  | some word =>
      let isFollowed ← isAhead do
        advance
        if (← isAfterLineEnd) && word != "static" then
          return false
        return (← isMemberName) || (← isAt .star)
      if memberModifiers.contains word && isFollowed then
        return some word
      else
        return none

/- The modifiers in front of a member. -/
def skipMemberModifiers : Reader (List String) :=
  repeatFrom [] fun found => do
    match ← memberModifier? with
    | some word =>
        advance
        return .again (word :: found)
    | none => return .done found

/- A block of statements that is run when a class is made. -/
def isStaticBlockAhead : Reader Bool :=
  isAhead do
    expectWord "static"
    isAt .openBrace

/-
  The rest of a field, after its name.  A mark on the same line
  can say that the field gets its value elsewhere.
-/
def fieldRest
    (self : Grammar)
    (context : Context)
    (isOptional : Bool) : Reader Unit := do
  if !isOptional && !(← isAfterLineEnd) then
    discard <| eat .bang
  typeAnnotation self context
  defaultValue self context.classBody
  endStatement

/-
  The name is allowed for a member.  A constructor is a plain
  method, and the prototype of a class cannot be replaced.
-/
def isMemberNameAllowed
    (name : PropertyName)
    (isStatic isField : Bool)
    (sort : MethodSort) : Bool :=
  match name with
  | .plain "constructor" _ =>
      if isField then false else isStatic || sort == .plain
  | .plain "prototype" _ => !isStatic
  | .hidden name => name != "constructor"
  | _ => true

/- A member after its modifiers. -/
def memberRest
    (self : Grammar)
    (context : Context)
    (modifiers : List String) : Reader Unit := do
  let sort ← methodMarks (modifiers.contains "async")
  if sort == .plain && (← isIndexAhead) then
    indexSignature self context
    endTypeMember
  else
    let name ← propertyName self context
    let isOptional ← eat .question
    let isMethod := sort != .plain || (← isAtAny [.openParen, .less])
    unless
        isMemberNameAllowed name (modifiers.contains "static")
          (!isMethod) sort do
      refuse .misplaced
    if isMethod then
      methodPhrase self context sort .method
    else
      fieldRest self context isOptional

/- A member of a class. -/
def classMember
    (self : Grammar)
    (context : Context) : Reader Unit := do
  if ← eat .semicolon then
    return
  decorators self context
  if ← isStaticBlockAhead then
    advance
    block self context.classBody
  else
    let modifiers ← skipMemberModifiers
    memberRest self context modifiers

/- The members of a class, with its braces. -/
def classBody
    (self : Grammar)
    (context : Context) : Reader Unit := do
  expect .openBrace
  repeatFrom () fun _ => do
    if ← isAt .closeBrace then
      return .done ()
    classMember self context
    return .again ()
  expect .closeBrace

------------------------------------------------------------
-- Classes
------------------------------------------------------------

/- The word `implements` at hand begins a clause. -/
def isImplementsClause : Reader Bool :=
  isAhead do
    expectWord "implements"
    return (← token).isName

/-
  A class from its decorators on.  It also holds the pieces of
  the decorators that were read before it.
-/
def classPhrase
    (self : Grammar)
    (context : Context)
    (earlier : List (Piece Construct))
    (needsName : Bool) : Reader Phrase :=
  declare earlier do
    let start ← here
    decorators self context
    discard <| eatWord "abstract"
    expectWord "class"
    let hasName := (← token).isVariable && !(← isImplementsClause)
    let name? ←
      if hasName then
        pure (some (← bindingName context))
      else if needsName then
        unexpected
      else
        pure none
    optionalTypeParameters self context
    let clauses ← heritage self context
    classBody self context
    let phrase ← phraseFrom start .ofClass
    return (phrase,
      .ofClass phrase.span name? clauses.superclass
        clauses.interfaces)

end MarkupLowering.Script
