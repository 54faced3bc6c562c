import MarkupLowering.Script.Class
import MarkupLowering.Script.Literal
import MarkupLowering.Script.Markup

/-
  This file reads expressions.

  Key definitions include:
    * `Script.primary`
    * `Script.leftHand`
    * `Script.unary`
    * `Script.binary`
    * `Script.assignment`
    * `Script.expression`
-/

namespace MarkupLowering.Script

------------------------------------------------------------
-- Primary Expressions
------------------------------------------------------------

/- Pass the token at hand as a phrase of a form. -/
def single (form : Form) : Reader Phrase := do
  let start ← here
  advance
  phraseFrom start form

/- A pattern between slashes. -/
def patternLiteral : Reader Phrase := do
  let start ← here
  let cursor ← get
  let begin : Point ←
    match cursor.token with
    | .punct .slash => pure cursor.next
    | .punct .slashAssign =>
        pure ⟨cursor.next.offset - 1, '=' :: cursor.next.rest⟩
    | _ => unexpected
  match readPattern begin with
  | .error cause => refuse cause
  | .ok next =>
      set { cursor with
        span := .between start next.offset
        next := next }
      single .other

/- An expression between parentheses. -/
def parenthesised
    (self : Grammar)
    (context : Context) : Reader Phrase := do
  let start ← here
  expect .openParen
  let inner ← self (.expression context.inside)
  expect .closeParen
  phraseFrom start (.wrapped inner.form.isSimpleTarget)

/- The name of a variable that is used. -/
def variableName (context : Context) : Reader Phrase := do
  match ← token with
  | .name word _ =>
      if isReserved word || (word == "await" && context.awaits)
          || (word == "yield" && context.yields) then
        unexpected
      else
        single (.name word)
  | _ => unexpected

/- The arguments of a call. -/
def arguments
    (self : Grammar)
    (context : Context) : Reader Unit := do
  expect .openParen
  discard <| listUntil .closeParen do
    discard <| eat .ellipsis
    discard <| self (.assignment context.inside true)

/- The word `super`, in front of a call or a member. -/
def superWord : Reader Phrase := do
  let phrase ← single .other
  unless ← isAtAny [.openParen, .dot, .openBracket] do
    unexpected
  return phrase

/- The word `import`, in front of a call or of `meta`. -/
def importWord
    (self : Grammar)
    (context : Context) : Reader Phrase := do
  let start ← here
  expectWord "import"
  if ← eat .dot then
    if ← isAtWord "meta" then
      advance
      return ← phraseFrom start .other
    unless ← isAtAnyWord ["source", "defer"] do
      unexpected
    advance
  if ← isAhead (do
      expect .openParen
      isAt .closeParen) then
    unexpected
  arguments self context
  phraseFrom start .other

/- An expression that begins with a word. -/
def wordExpression
    (self : Grammar)
    (context : Context)
    (word : String) : Reader Phrase := do
  match word with
  | "this" => single .other
  | "null" => single .other
  | "true" => single (.boolean true)
  | "false" => single (.boolean false)
  | "function" => functionPhrase self context .expression
  | "class" => classPhrase self context [] false
  | "super" => superWord
  | "import" => importWord self context
  | "async" =>
      if ← isAsyncFunctionAhead then
        functionPhrase self context .expression
      else
        variableName context
  | _ => variableName context

/- An expression without operators, apart from `new`. -/
def primary
    (self : Grammar)
    (context : Context) : Reader Phrase := do
  match ← token with
  | .text value => single (.text value)
  | .number spelling isBig =>
      single (if isBig then .other else .number spelling)
  | .template _ _ _ => templateLiteral self context
  | .punct .openParen => parenthesised self context
  | .punct .openBracket => arrayLiteral self context
  | .punct .openBrace => objectLiteral self context
  | .punct .slash => patternLiteral
  | .punct .slashAssign => patternLiteral
  | .punct .atSign => classPhrase self context [] false
  | current =>
      match current.word? with
      | some word => wordExpression self context word
      | none => variableName context

------------------------------------------------------------
-- Members and Calls
------------------------------------------------------------

/- An expression and whether a link of its chain is optional. -/
structure Chain where
  phrase : Phrase
  isOptional : Bool

/- The token begins an expression. -/
def beginsExpression : Reader Bool := do
  match ← token with
  | .finish => return false
  | .punct punct =>
      return [.openParen, .openBracket, .openBrace, .plus, .minus,
        .tilde, .bang, .plusPlus, .minusMinus, .less, .slash,
        .slashAssign, .atSign].contains punct
  | .name word _ =>
      return !isReserved word
        || ["this", "super", "null", "true", "false", "function",
          "class", "new", "delete", "typeof", "void",
          "import"].contains word
  | _ => return true

/- The token is an operator between two expressions. -/
def isBinaryOperator (context : Context) : Reader Bool := do
  match ← token with
  | .punct punct =>
      return [.less, .greater, .plus, .minus, .star, .slash,
        .percent, .power, .ampersand, .bar, .caret, .equality,
        .conjunction, .disjunction, .coalesce].contains punct
  | current =>
      match current.word? with
      | some "in" => return context.allowsIn
      | some word =>
          return ["instanceof", "as", "satisfies"].contains word
      | none => return false

/-
  Type arguments after an expression.  They are taken for such
  only if what follows cannot continue a comparison.
-/
def expressionTypeArguments
    (self : Grammar)
    (context : Context) : Reader Unit := do
  typeArguments self context
  match ← token with
  | .punct .openParen => return
  | .template _ _ _ => return
  | .punct .less => unexpected
  | .punct .greater => unexpected
  | .punct .plus => unexpected
  | .punct .minus => unexpected
  | _ =>
      unless (← isAfterLineEnd) || (← isBinaryOperator context)
          || !(← beginsExpression) do
        unexpected

/- A template is at hand. -/
def isAtTemplate : Reader Bool := do
  match ← token with
  | .template _ _ _ => return true
  | _ => return false

/- The name of a member after a dot. -/
def memberName (start : Nat) : Reader Phrase := do
  match ← token with
  | .name _ _ =>
      advance
      phraseFrom start .staticMember
  | .privateName _ =>
      advance
      phraseFrom start .member
  | _ => unexpected

/- A member between brackets. -/
def indexedMember
    (self : Grammar)
    (context : Context)
    (start : Nat) : Reader Phrase := do
  expect .openBracket
  discard <| self (.expression context.inside)
  expect .closeBracket
  phraseFrom start .member

/- An optional member follows. -/
def isOptionalMemberAhead : Reader Bool :=
  isAhead do
    expect .questionDot
    match ← token with
    | .name _ _ => return true
    | .privateName _ => return true
    | .template _ _ _ => return true
    | _ => isAt .openBracket

/- A link of a chain, as long as the chain has another one. -/
def memberLink
    (self : Grammar)
    (context : Context)
    (start : Nat)
    (allowsOptional : Bool)
    (chain : Chain) : Reader (Turn Chain Chain) := do
  let again (phrase : Phrase) : Turn Chain Chain :=
    .again ⟨phrase, chain.isOptional⟩
  if allowsOptional && (← isOptionalMemberAhead) then
    advance
    if ← isAt .openBracket then
      return .again ⟨← indexedMember self context start, true⟩
    else
      return .again ⟨← memberName start, true⟩
  if ← eat .dot then
    return again (← memberName start)
  if (← isAt .bang) && !(← isAfterLineEnd) then
    advance
    return again
      (← phraseFrom start
        (.wrapped chain.phrase.form.isSimpleTarget))
  if (← isAt .openBracket) && !context.inDecorator then
    return again (← indexedMember self context start)
  if ← isAtTemplate then
    if chain.isOptional then
      refuse .misplaced
    templatePieces self context true
    return again (← phraseFrom start .other)
  if ← isAt .less then
    match ← attempt (expressionTypeArguments self context) with
    | some _ =>
        return again (← phraseFrom start
          (.instantiation chain.phrase.form chain.phrase.span))
    | none => return .done chain
  return .done chain

/- The members of an expression. -/
def memberChain
    (self : Grammar)
    (context : Context)
    (start : Nat)
    (allowsOptional : Bool)
    (first : Chain) : Reader Chain :=
  repeatFrom first (memberLink self context start allowsOptional)

/- What `new` makes. -/
def newExpression
    (self : Grammar)
    (context : Context)
    (callee : Reader Phrase) : Reader Phrase := do
  let start ← here
  expectWord "new"
  if ← eat .dot then
    expectWord "target"
    return ← phraseFrom start .other
  if ← isAtWord "import" then
    unexpected
  let calleeStart ← here
  let first ← callee
  discard <| memberChain self context calleeStart false ⟨first, false⟩
  if ← isAt .questionDot then
    refuse .misplaced
  if ← isAt .openParen then
    arguments self context
  phraseFrom start .other

/- The number of times that `new` stands at the front is bounded. -/
def primaryOrNew
    (self : Grammar)
    (context : Context) : (fuel : Nat) → Reader Phrase
  | 0 => refuse .tooDeep
  | fuel + 1 => do
      if ← isAtWord "new" then
        newExpression self context (primaryOrNew self context fuel)
      else
        primary self context

/- The members and calls of an expression. -/
def callChain
    (self : Grammar)
    (context : Context)
    (start : Nat)
    (first : Chain) : Reader Chain :=
  repeatFrom first fun chain => do
    let chain ← memberChain self context start true chain
    let isOptional ← eat .questionDot
    if isOptional && (← isAt .less) then
      typeArguments self context
      unless ← isAt .openParen do
        unexpected
    if ← isAt .openParen then
      arguments self context
      return .again
        ⟨← phraseFrom start .other,
          chain.isOptional || isOptional⟩
    else if isOptional then
      unexpected
    else
      return .done chain

/- An expression with its members and calls. -/
def leftHand
    (self : Grammar)
    (context : Context) : Reader Phrase := do
  let start ← here
  let first ← primaryOrNew self context (← get).limit
  let chain ← callChain self context start ⟨first, false⟩
  if chain.isOptional then
    return ⟨chain.phrase.span, .other⟩
  else
    return chain.phrase

------------------------------------------------------------
-- Unary Operators
------------------------------------------------------------

/- A name, a keyword or a literal follows on the same line. -/
def isOperandAhead : Reader Bool :=
  isAhead do
    advance
    if ← isAfterLineEnd then
      return false
    match ← token with
    | .name _ _ => return true
    | .number _ _ => return true
    | .text _ => return true
    | _ => return false

/- The word `await` at hand is an operator. -/
def isAwait (context : Context) : Reader Bool := do
  if ← isAtWord "await" then
    return context.awaits || (← isOperandAhead)
  else
    return false

/- An element as an expression. -/
def markupExpression
    (self : Grammar)
    (context : Context) : Reader Phrase := do
  let phrase ← markup self context
  match phrase.form with
  | .markup element => note (.markup element)
  | _ => unexpected
  advance
  return ⟨phrase.span, .other⟩

/- An expression whose value can be changed by `++` or `--` after it. -/
def update
    (self : Grammar)
    (context : Context) : Reader Phrase := do
  let start ← here
  let phrase ← leftHand self context
  if (← isAtAny [.plusPlus, .minusMinus]) && !(← isAfterLineEnd) then
    unless phrase.form.isSimpleTarget do
      refuse .invalidTarget
    advance
    phraseFrom start .other
  else
    return phrase

/- An operator in front of an operand.  No power may follow. -/
def signed
    (self : Grammar)
    (context : Context) : Reader Phrase := do
  let start ← here
  advance
  discard <| self (.unary context)
  if ← isAt .power then
    unexpected
  phraseFrom start .other

/- An expression with the operators in front of it. -/
def unary
    (self : Grammar)
    (context : Context) : Reader Phrase := do
  let start ← here
  if ← isAtAny [.plus, .minus, .tilde, .bang] then
    signed self context
  else if ← isAtAnyWord ["delete", "typeof", "void"] then
    signed self context
  else if ← isAwait context then
    unless context.awaits do
      refuse .misplaced
    signed self context
  else if ← isAtAny [.plusPlus, .minusMinus] then
    advance
    let phrase ← self (.unary context)
    unless phrase.form.isSimpleTarget do
      refuse .invalidTarget
    phraseFrom start .other
  else if ← isAt .less then
    markupExpression self context
  else
    update self context

------------------------------------------------------------
-- Binary Operators
------------------------------------------------------------

/- An operator between two expressions. -/
inductive Operator where
  | binary (level : Nat)
  | power
  | logical (level : Nat)
  | coalescing
  | typed
  | assign (isPlain : Bool)
deriving DecidableEq, Repr

namespace Operator

/- How closely an operator binds.  Assignments do not take part. -/
def level : Operator → Nat
  | coalescing => 1
  | logical level => level
  | binary level => level
  | typed => 8
  | power => 12
  | assign _ => 0

end Operator

/- The operator that begins with an angle bracket, and its length. -/
def angleOperator (isLess : Bool) : List Char → Operator × Nat
  | '=' :: _ => (.binary 8, 2)
  | '<' :: '=' :: _ =>
      if isLess then (.assign false, 3) else (.binary 8, 1)
  | '<' :: _ => if isLess then (.binary 9, 2) else (.binary 8, 1)
  | '>' :: '>' :: '=' :: _ =>
      if isLess then (.binary 8, 1) else (.assign false, 4)
  | '>' :: '>' :: _ => if isLess then (.binary 8, 1) else (.binary 9, 3)
  | '>' :: '=' :: _ =>
      if isLess then (.binary 8, 1) else (.assign false, 3)
  | '>' :: _ => if isLess then (.binary 8, 1) else (.binary 9, 2)
  | _ => (.binary 8, 1)

/-
  The operator at hand and its length, where it is not that of
  its token.
-/
def operator? (context : Context) : Reader (Option (Operator × Nat)) := do
  match ← token with
  | .punct punct =>
      match punct with
      | .less => return some (angleOperator true (← get).next.rest)
      | .greater => return some (angleOperator false (← get).next.rest)
      | .equals => return some (.assign true, 1)
      | .compoundAssign => return some (.assign false, 1)
      | .slashAssign => return some (.assign false, 1)
      | .coalesce => return some (.coalescing, 1)
      | .disjunction => return some (.logical 2, 1)
      | .conjunction => return some (.logical 3, 1)
      | .bar => return some (.binary 4, 1)
      | .caret => return some (.binary 5, 1)
      | .ampersand => return some (.binary 6, 1)
      | .equality => return some (.binary 7, 1)
      | .plus => return some (.binary 10, 1)
      | .minus => return some (.binary 10, 1)
      | .star => return some (.binary 11, 1)
      | .slash => return some (.binary 11, 1)
      | .percent => return some (.binary 11, 1)
      | .power => return some (.power, 1)
      | _ => return none
  | current =>
      match current.word? with
      | some "in" =>
          return if context.allowsIn then some (.binary 8, 1) else none
      | some "instanceof" => return some (.binary 8, 1)
      | some "as" =>
          return if ← isAfterLineEnd then none else some (.typed, 1)
      | some "satisfies" =>
          return if ← isAfterLineEnd then none else some (.typed, 1)
      | _ => return none

/- Pass an operator of a length. -/
def passOperator (length : Nat) : Reader Unit := do
  widen (length - 1)
  advance

/- The form of an expression with a logical operator. -/
def logicalForm
    (operator : Operator)
    (left right : Form) : Reader Form := do
  let isLogical : Form → Bool
    | .logical => true
    | _ => false
  let isCoalescing : Form → Bool
    | .coalescing => true
    | _ => false
  match operator with
  | .coalescing =>
      if isLogical left || isLogical right then
        refuse .misplaced
      return .coalescing
  | .logical _ =>
      if isCoalescing left || isCoalescing right then
        refuse .misplaced
      return .logical
  | _ => return .other

/-
  The operators that bind more closely than a level, and their
  operands.
-/
def binaryRest
    (self : Grammar)
    (context : Context)
    (level start : Nat)
    (first : Phrase) : Reader Phrase :=
  repeatFrom first fun left => do
    match ← operator? context with
    | none => return .done left
    | some (.assign _, _) => return .done left
    | some (.typed, _) =>
        if Operator.typed.level ≤ level then
          return .done left
        advance
        discard <| self (.typing context true)
        return .again
          (← phraseFrom start (.wrapped left.form.isSimpleTarget))
    | some (operator, length) =>
        let binds :=
          if operator = .power then
            level ≤ operator.level
          else
            level < operator.level
        unless binds do
          return .done left
        passOperator length
        let right ←
          self (.binary context
            (if operator = .power then 11 else operator.level))
        let form ← logicalForm operator left.form right.form
        return .again (← phraseFrom start form)

/- An operand of an operator of a level. -/
def binary
    (self : Grammar)
    (context : Context)
    (level : Nat) : Reader Phrase := do
  let start ← here
  match ← token with
  | .privateName _ =>
      advance
      unless (← isAtWord "in") && context.allowsIn do
        unexpected
      binaryRest self context level start (← phraseFrom start .other)
  | _ =>
      let first ← unary self context
      binaryRest self context level start first

------------------------------------------------------------
-- Assignments
------------------------------------------------------------

/- The word `yield` at hand is an operator. -/
def isYield (context : Context) : Reader Bool := do
  if ← isAtWord "yield" then
    return context.yields || (← isOperandAhead)
  else
    return false

/- What a generator yields. -/
def yieldExpression
    (self : Grammar)
    (context : Context) : Reader Phrase := do
  unless context.yields do
    refuse .misplaced
  let start ← here
  advance
  unless ← isAfterLineEnd do
    let isDelegate ← eat .star
    let isAlone :=
      (← isAtAny [.semicolon, .closeBrace, .closeParen,
          .closeBracket, .colon, .comma])
        || (← isAtFinish) || (← isAtWord "in")
    if isDelegate || !isAlone then
      discard <| self (.assignment context true)
  phraseFrom start .other

/- The two branches of a condition. -/
def conditionalRest
    (self : Grammar)
    (context : Context)
    (allowsArrowType : Bool)
    (start : Nat) : Reader Phrase := do
  expect .question
  discard <| self (.assignment context.inside false)
  expect .colon
  discard <| self (.assignment context allowsArrowType)
  phraseFrom start .other

/- The value of an assignment, after its target. -/
def assignmentRest
    (self : Grammar)
    (context : Context)
    (allowsArrowType isPlain : Bool)
    (length : Nat)
    (target : Phrase) : Reader Phrase := do
  if isPlain then
    unless target.form.isTarget do
      refuse .invalidTarget
    modify fun cursor =>
      { cursor with
        defaults := cursor.defaults.filter fun offset =>
          !(target.span.start ≤ offset && offset < target.span.stop) }
  else
    unless target.form.isSimpleTarget do
      refuse .invalidTarget
  passOperator length
  discard <| self (.assignment context allowsArrowType)
  phraseFrom target.span.start (if isPlain then .assignment else .other)

/- An expression that is no arrow function and yields nothing. -/
def plainAssignment
    (self : Grammar)
    (context : Context)
    (allowsArrowType : Bool) : Reader Phrase := do
  let start ← here
  let left ← binary self context 0
  if ← isAt .arrow then
    match left.form with
    | .name _ => return ← namedArrow self context allowsArrowType start
    | _ => unexpected
  if ← isAt .question then
    return ← conditionalRest self context allowsArrowType start
  match ← operator? context with
  | some (.assign isPlain, length) =>
      assignmentRest self context allowsArrowType isPlain length left
  | _ => return left

/- An arrow function with parentheses, if one is at hand. -/
def tryArrow
    (self : Grammar)
    (context : Context)
    (allowsArrowType : Bool) : Reader (Option Phrase) := do
  match ← arrowLikelihood with
  | .no => return none
  | .yes => return some (← parenthesisedArrow self context true)
  | .maybe => attempt (parenthesisedArrow self context allowsArrowType)

/- An expression without commas. -/
def assignment
    (self : Grammar)
    (context : Context)
    (allowsArrowType : Bool) : Reader Phrase := do
  if ← isYield context then
    yieldExpression self context
  else
    match ← tryArrow self context allowsArrowType with
    | some phrase => return phrase
    | none =>
        if ← isAsyncArrowAhead then
          asyncNamedArrow self context allowsArrowType
        else
          plainAssignment self context allowsArrowType

/- An expression, in which commas may stand. -/
def expression
    (self : Grammar)
    (context : Context) : Reader Phrase := do
  let start ← here
  let first ← assignment self context true
  if ← isAt .comma then
    repeatFrom () fun _ => do
      if ← eat .comma then
        discard <| self (.assignment context true)
        return .again ()
      else
        return .done ()
    phraseFrom start .other
  else
    return first

end MarkupLowering.Script
