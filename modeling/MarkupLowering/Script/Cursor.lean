import MarkupLowering.Program
import MarkupLowering.Script.Token

/-
  This file defines how a script is read: a cursor that stands
  at a token, and readers that move it.  A reader can look
  ahead and try a reading, since the cursor is a value.

  Pieces of the module are noted as they are met.

  Key definitions include:
    * `Script.Cursor`
    * `Script.Reader`
    * `Script.advance`
    * `Script.attempt`
    * `Script.looking`
    * `Script.repeatFrom`
    * `Script.gather`
    * `Script.declare`
-/

namespace MarkupLowering.Script

------------------------------------------------------------
-- Cursors and Readers
------------------------------------------------------------

/- A fault of a script and its place. -/
structure ReadError where
  cause : ReadCause
  span : Span
deriving DecidableEq, Repr

/-
  A place between two tokens: the token that follows, with the
  text after it, and the end of the token before.  The pieces
  found so far come latest first.  The offsets of defaults in
  object literals that only a target may hold are kept until
  one is found to be a target.  The number of characters bounds
  all repetitions.
-/
structure Cursor where
  limit : Nat
  token : Token
  span : Span
  next : Point
  afterLineEnd : Bool
  lastStop : Nat
  pieces : List (Piece Construct)
  defaults : List Nat

/- A reader of a part of a script. -/
abbrev Reader (α : Type) :=
  StateT Cursor (Except ReadError) α

variable {α σ : Type}

/- Refuse the token at hand. -/
def refuse (cause : ReadCause) : Reader α := do
  throw ⟨cause, (← get).span⟩

/- Refuse the token at hand for what it is. -/
def unexpected : Reader α :=
  refuse .unexpectedToken

/- The token at hand. -/
def token : Reader Token := do
  return (← get).token

/- The offset at which the token at hand begins. -/
def here : Reader Nat := do
  return (← get).span.start

/- The span from an offset to the end of the last token. -/
def spanFrom (start : Nat) : Reader Span := do
  return .between start (← get).lastStop

/- The token at hand is the first of its line. -/
def isAfterLineEnd : Reader Bool := do
  return (← get).afterLineEnd

------------------------------------------------------------
-- Moving
------------------------------------------------------------

/- Pass the token at hand and stand at the one a reading gives. -/
def advanceBy (read : Point → Reading Token) : Reader Unit := do
  let cursor ← get
  match skipBlanks cursor.next with
  | .error cause =>
      let offset := cursor.next.offset
      throw ⟨cause, .between offset offset⟩
  | .ok gap =>
      let offset := gap.point.offset
      match read gap.point with
      | .error cause => throw ⟨cause, .between offset offset⟩
      | .ok (token, next) =>
          set { cursor with
            token := token
            span := .between offset next.offset
            next := next
            afterLineEnd := gap.hasLineEnd
            lastStop := cursor.span.stop }

/- Pass the token at hand. -/
def advance : Reader Unit :=
  advanceBy readToken

/-
  Read the token at hand anew, given the place after it where
  the new token begins.
-/
def rereadBy (read : Point → Reading Token) : Reader Unit := do
  let cursor ← get
  match read cursor.next with
  | .error cause => refuse cause
  | .ok (token, next) =>
      set { cursor with
        token := token
        span := .between cursor.span.start next.offset
        next := next }

/- Add the next characters to the token at hand. -/
def widen (count : Nat) : Reader Unit :=
  modify fun cursor =>
    let next := cursor.next.after count
    { cursor with
      span := .between cursor.span.start next.offset
      next := next }

------------------------------------------------------------
-- Trying
------------------------------------------------------------

/- Try a reading.  If it fails, the cursor stays where it is. -/
def attempt (reader : Reader α) : Reader (Option α) := fun cursor =>
  match reader cursor with
  | .ok (value, after) => .ok (some value, after)
  | .error _ => .ok (none, cursor)

/- What a reading would give.  The cursor stays where it is. -/
def looking (reader : Reader α) : Reader (Option α) := fun cursor =>
  match reader cursor with
  | .ok (value, _) => .ok (some value, cursor)
  | .error _ => .ok (none, cursor)

/- A test that may read ahead.  The cursor stays where it is. -/
def isAhead (reader : Reader Bool) : Reader Bool := do
  return (← looking reader).getD false

------------------------------------------------------------
-- Repeating
------------------------------------------------------------

/- What follows a step of a repetition. -/
inductive Turn (σ α : Type) where
  | again (state : σ)
  | done (value : α)

/- Repeat a step at most a number of times. -/
def repeatUpTo
    (step : σ → Reader (Turn σ α)) :
    (count : Nat) → σ → Reader α
  | 0, _ => refuse .tooDeep
  | count + 1, state => do
      match ← step state with
      | .again state => repeatUpTo step count state
      | .done value => return value

/-
  Repeat a step until it is done.  A step that asks for
  another one has passed a token, so there are no more of them
  than characters.
-/
def repeatFrom (start : σ) (step : σ → Reader (Turn σ α)) : Reader α := do
  repeatUpTo step (← get).limit start

------------------------------------------------------------
-- Tests
------------------------------------------------------------

/- The token at hand is a punctuator. -/
def isAt (punct : Punct) : Reader Bool := do
  return (← token) == .punct punct

/- The token at hand is one of some punctuators. -/
def isAtAny (puncts : List Punct) : Reader Bool := do
  match ← token with
  | .punct punct => return puncts.contains punct
  | _ => return false

/- The word that a token spells out, without escapes. -/
def Token.word? : Token → Option String
  | .name word spelling => if word == spelling then some word else none
  | _ => none

/- The token at hand is a word, without escapes. -/
def isAtWord (word : String) : Reader Bool := do
  return (← token).word? == some word

/- The token at hand is one of some words. -/
def isAtAnyWord (words : List String) : Reader Bool := do
  match (← token).word? with
  | some word => return words.contains word
  | none => return false

/- The text is at its end. -/
def isAtFinish : Reader Bool := do
  return (← token) == .finish

/- Pass a punctuator, if it is at hand. -/
def eat (punct : Punct) : Reader Bool := do
  if ← isAt punct then
    advance
    return true
  else
    return false

/- Pass a word, if it is at hand. -/
def eatWord (word : String) : Reader Bool := do
  if ← isAtWord word then
    advance
    return true
  else
    return false

/- Pass a punctuator. -/
def expect (punct : Punct) : Reader Unit := do
  unless ← eat punct do
    unexpected

/- Pass a word. -/
def expectWord (word : String) : Reader Unit := do
  unless ← eatWord word do
    unexpected

/-
  The end of a statement: a semicolon, or a place where none
  is needed.
-/
def endStatement : Reader Unit := do
  if ← eat .semicolon then
    return
  if (← isAt .closeBrace) || (← isAtFinish) || (← isAfterLineEnd) then
    return
  unexpected

------------------------------------------------------------
-- Names
------------------------------------------------------------

/- Words that are never names of variables. -/
def reservedWords : List String :=
  ["break", "case", "catch", "class", "const", "continue",
    "debugger", "default", "delete", "do", "else", "enum",
    "export", "extends", "false", "finally", "for", "function",
    "if", "import", "in", "instanceof", "new", "null", "return",
    "super", "switch", "this", "throw", "true", "try", "typeof",
    "var", "void", "while", "with"]

/- The word is never the name of a variable. -/
def isReserved (word : String) : Bool :=
  reservedWords.contains word

/- The token can be the name of a variable. -/
def Token.isVariable : Token → Bool
  | .name word _ => !isReserved word
  | _ => false

/- The token is a name or a keyword. -/
def Token.isName : Token → Bool
  | .name _ _ => true
  | _ => false

/- Pass a name or a keyword. -/
def anyName : Reader String := do
  match ← token with
  | .name word _ =>
      advance
      return word
  | _ => unexpected

------------------------------------------------------------
-- Pieces
------------------------------------------------------------

/- Note a piece. -/
def note (piece : Piece Construct) : Reader Unit :=
  modify fun cursor =>
    { cursor with pieces := piece :: cursor.pieces }

/- Read and give the pieces met, without noting them. -/
def gather
    (reader : Reader α) :
    Reader (α × List (Piece Construct)) := do
  let before := (← get).pieces
  modify fun cursor => { cursor with pieces := [] }
  let value ← reader
  let found := (← get).pieces
  modify fun cursor => { cursor with pieces := before }
  return (value, found.reverse)

/-
  Read a construct.  It holds the pieces met on the way and
  those that were met before it.
-/
def declare
    (earlier : List (Piece Construct))
    (reader : Reader (α × Construct)) : Reader α := do
  let ((value, head), found) ← gather reader
  note (.group head (earlier ++ found))
  return value

end MarkupLowering.Script
