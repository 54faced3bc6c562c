import MarkupLowering.Text.Blank
import MarkupLowering.Text.Identifier
import MarkupLowering.Text.Quoted
import MarkupLowering.Text.Span

/-
  This file reads single tokens of a script.  What a character
  begins can depend on its surroundings: a slash begins a
  division or a pattern, a closing brace may resume a
  template, and angle brackets take part in operators, types
  and markup.  The plain reading takes the shortest view: a
  slash divides, a brace closes, an angle bracket stands
  alone.  The other readings start again from the text after
  such a token.

  Key definitions include:
    * `Script.Point`
    * `Script.ReadCause`
    * `Script.Punct`
    * `Script.Token`
    * `Script.skipBlanks`
    * `Script.readToken`
    * `Script.readTemplate`
    * `Script.readPattern`
-/

namespace MarkupLowering.Script

------------------------------------------------------------
-- Places in the Text
------------------------------------------------------------

/- A place in the text: its offset and the characters after it. -/
structure Point where
  offset : Nat
  rest : List Char
deriving Repr

namespace Point

/- The place after some characters. -/
def after
    (point : Point)
    (count : Nat) : Point :=
  ⟨point.offset + Text.byteLength (point.rest.take count),
    point.rest.drop count⟩

/- The characters of a class at a place, and the place after them. -/
def spanWhile
    (point : Point)
    (p : Char → Bool) : List Char × Point :=
  let taken := point.rest.takeWhile p
  (taken, ⟨point.offset + Text.byteLength taken, point.rest.dropWhile p⟩)

end Point

------------------------------------------------------------
-- Causes
------------------------------------------------------------

/- Why text is no script. -/
inductive ReadCause where
  | unexpectedToken
  | invalidCharacter
  | invalidNumber
  | invalidEscape
  | unterminatedText
  | unterminatedTemplate
  | unterminatedComment
  | unterminatedPattern
  | invalidPatternFlags
  | invalidTarget
  | unmatchedTag
  | misplaced
  | tooDeep
  | tooLong
deriving DecidableEq, Repr

namespace ReadCause

/- The cause in words. -/
def message : ReadCause → String
  | unexpectedToken => "unexpected token"
  | invalidCharacter => "invalid character"
  | invalidNumber => "invalid number"
  | invalidEscape => "invalid escape sequence"
  | unterminatedText => "unterminated string"
  | unterminatedTemplate => "unterminated template"
  | unterminatedComment => "unterminated comment"
  | unterminatedPattern => "unterminated regular expression"
  | invalidPatternFlags => "invalid regular expression flags"
  | invalidTarget => "cannot assign to this expression"
  | unmatchedTag => "closing tag does not match"
  | misplaced => "not allowed here"
  | tooDeep => "nested too deeply"
  | tooLong => "longer than 4 GiB"

end ReadCause

------------------------------------------------------------
-- Tokens
------------------------------------------------------------

/- A punctuator, as far as the grammar tells them apart. -/
inductive Punct where
  | openBrace | closeBrace
  | openParen | closeParen
  | openBracket | closeBracket
  | dot | ellipsis | comma | semicolon | colon
  | question | questionDot | arrow | atSign
  | less | greater
  | equals | compoundAssign | slashAssign
  | bang | tilde | plusPlus | minusMinus
  | plus | minus | star | slash | percent | power
  | ampersand | bar | caret
  | equality | conjunction | disjunction | coalesce
deriving DecidableEq, Repr

/-
  A token.  A name may be a keyword; a name that is spelled
  with an escape never is.  A text is given by its value, a
  number by its spelling and a piece of a template by its
  characters as they are written.
-/
inductive Token where
  | finish
  | name (text spelling : String)
  | privateName (text : String)
  | number (spelling : String) (isBig : Bool)
  | text (value : String)
  | template (raw : String) (isValid isLast : Bool)
  | punct (punct : Punct)
deriving DecidableEq, Repr

/- A token that was read and the place after it. -/
abbrev Reading (α : Type) :=
  Except ReadCause (α × Point)

------------------------------------------------------------
-- Blanks and Comments
------------------------------------------------------------

/- Where a text with line ends in it continues. -/
structure Gap where
  point : Point
  hasLineEnd : Bool

/- Where a place between two tokens lies. -/
inductive GapPlace where
  | blanks
  | lineComment
  | comment

/-
  The place after blanks, line ends and comments.  A comment
  ends with its line, or with a star and a slash.
-/
def skipFrom :
    GapPlace → (offset : Nat) → (hasLineEnd : Bool) →
      List Char → Except ReadCause Gap
  | .comment, _, _, [] => .error .unterminatedComment
  | .comment, offset, hasLineEnd, '*' :: '/' :: rest =>
      skipFrom .blanks (offset + 2) hasLineEnd rest
  | .comment, offset, hasLineEnd, c :: rest =>
      skipFrom .comment (offset + c.utf8Size)
        (hasLineEnd || Text.isLineEnd c) rest
  | .lineComment, offset, hasLineEnd, [] => .ok ⟨⟨offset, []⟩, hasLineEnd⟩
  | .lineComment, offset, hasLineEnd, c :: rest =>
      if Text.isLineEnd c then
        skipFrom .blanks (offset + c.utf8Size) true rest
      else
        skipFrom .lineComment (offset + c.utf8Size) hasLineEnd rest
  | .blanks, offset, hasLineEnd, [] => .ok ⟨⟨offset, []⟩, hasLineEnd⟩
  | .blanks, offset, hasLineEnd, '/' :: '/' :: rest =>
      skipFrom .lineComment (offset + 2) hasLineEnd rest
  | .blanks, offset, hasLineEnd, '/' :: '*' :: rest =>
      skipFrom .comment (offset + 2) hasLineEnd rest
  | .blanks, offset, hasLineEnd, c :: rest =>
      if Text.isLineEnd c then
        skipFrom .blanks (offset + c.utf8Size) true rest
      else if Text.isScriptBlank c then
        skipFrom .blanks (offset + c.utf8Size) hasLineEnd rest
      else
        .ok ⟨⟨offset, c :: rest⟩, hasLineEnd⟩

/- The place of the next token. -/
def skipBlanks (point : Point) : Except ReadCause Gap :=
  skipFrom .blanks point.offset false point.rest

------------------------------------------------------------
-- Escapes
------------------------------------------------------------

/- The value of hexadecimal digits up to a closing brace. -/
def readBracedCode (offset value : Nat) (isFirst : Bool) :
    List Char → Option (Nat × Point)
  | [] => none
  | c :: rest =>
      if c = Char.ofNat 0x7D then
        if isFirst then none else some (value, ⟨offset + 1, rest⟩)
      else
        match Text.Quoted.hexValue? c with
        | none => none
        | some digit =>
            let value := value * 16 + digit
            if 0x10FFFF < value then
              none
            else
              readBracedCode (offset + 1) value false rest

/- The code of an escape, after the backslash and the letter `u`. -/
def readCode (point : Point) : Option (Nat × Point) :=
  match point.rest with
  | a :: rest =>
      if a = Char.ofNat 0x7B then
        readBracedCode (point.offset + 1) 0 true rest
      else
        match rest with
        | b :: c :: d :: rest =>
            (Text.Quoted.hexValue4? a b c d).map fun code =>
              (code, ⟨point.offset + 4, rest⟩)
        | _ => none
  | [] => none

/- The octal digits at a place, at most three and below 256. -/
def readOctal (point : Point) : Nat × Point :=
  let isOctal (c : Char) : Bool := '0' ≤ c && c ≤ '7'
  let value (c : Char) : Nat := c.toNat - 0x30
  match point.rest with
  | a :: b :: c :: rest =>
      if isOctal b then
        if isOctal c && value a ≤ 3 then
          ((value a * 8 + value b) * 8 + value c,
            ⟨point.offset + 3, rest⟩)
        else
          (value a * 8 + value b, ⟨point.offset + 2, c :: rest⟩)
      else
        (value a, ⟨point.offset + 1, b :: c :: rest⟩)
  | [a, b] =>
      if isOctal b then
        (value a * 8 + value b, ⟨point.offset + 2, []⟩)
      else
        (value a, ⟨point.offset + 1, [b]⟩)
  | a :: rest => (value a, ⟨point.offset + 1, rest⟩)
  | [] => (0, point)

/-
  The codes that an escape stands for, after the backslash.
  An escaped line end stands for nothing, and an unknown
  escape for its character.
-/
def readEscape (point : Point) : Option (List Nat × Point) :=
  match point.rest with
  | [] => none
  | c :: rest =>
      let next : Point := ⟨point.offset + c.utf8Size, rest⟩
      if c = 'n' then some ([0xA], next)
      else if c = 't' then some ([0x9], next)
      else if c = 'r' then some ([0xD], next)
      else if c = 'b' then some ([0x8], next)
      else if c = 'v' then some ([0xB], next)
      else if c = 'f' then some ([0xC], next)
      else if c = 'u' then
        (readCode next).map fun result => ([result.1], result.2)
      else if c = 'x' then
        match rest with
        | a :: b :: rest =>
            match Text.Quoted.hexValue? a, Text.Quoted.hexValue? b with
            | some a, some b =>
                some ([a * 16 + b], ⟨next.offset + 2, rest⟩)
            | _, _ => none
        | _ => none
      else if '0' ≤ c ∧ c ≤ '7' then
        let (code, next) := readOctal point
        some ([code], next)
      else if c.toNat = 0xD then
        match rest with
        | d :: rest =>
            if d.toNat = 0xA then
              some ([], ⟨next.offset + 1, rest⟩)
            else
              some ([], next)
        | [] => some ([], next)
      else if Text.isLineEnd c then some ([], next)
      else some ([c.toNat], next)

/- Join the halves of surrogate pairs. -/
def joinPairs : List Nat → List Nat
  | high :: low :: rest =>
      if Text.Quoted.isHighHalf high && Text.Quoted.isLowHalf low then
        (Text.Quoted.pairChar high low).toNat :: joinPairs rest
      else
        high :: joinPairs (low :: rest)
  | codes => codes

/- The code is half a surrogate pair. -/
def isHalf (code : Nat) : Bool :=
  Text.Quoted.isHighHalf code || Text.Quoted.isLowHalf code

/- Four hexadecimal digits. -/
def hex4 (n : Nat) : List Char :=
  [n / 4096 % 16, n / 256 % 16, n / 16 % 16, n % 16].map
    Text.Quoted.hexDigit

/-
  The text of codes.  Where a half of a surrogate pair stands
  alone, it and every replacement character are written as a
  replacement character and the code.
-/
def textOfCodes (codes : List Nat) : String :=
  let codes := joinPairs codes
  if codes.any isHalf then
    String.ofList (codes.flatMap fun code =>
      if isHalf code || code == 0xFFFD then
        Char.ofNat 0xFFFD :: hex4 code
      else
        [Char.ofNat code])
  else
    String.ofList (codes.map Char.ofNat)

------------------------------------------------------------
-- Names
------------------------------------------------------------

/-
  The characters of a name and whether it has escapes.  The
  fuel bounds their number.
-/
def readNameChars :
    (fuel : Nat) → (isFirst : Bool) → Point →
      Except ReadCause (List Char × Bool × Point)
  | 0, _, point => .ok ([], false, point)
  | fuel + 1, isFirst, point =>
      let belongs (c : Char) : Bool :=
        if isFirst then Text.isNameStart c else Text.isNamePart c
      match point.rest with
      | '\\' :: 'u' :: rest =>
          match readCode ⟨point.offset + 2, rest⟩ with
          | none => .error .invalidEscape
          | some (code, next) =>
              let c := Char.ofNat code
              if isHalf code || !belongs c then
                .error .invalidEscape
              else
                match readNameChars fuel false next with
                | .error cause => .error cause
                | .ok (cs, _, next) => .ok (c :: cs, true, next)
      | '\\' :: _ => .error .invalidEscape
      | c :: rest =>
          if belongs c then
            match
              readNameChars fuel false ⟨point.offset + c.utf8Size, rest⟩
            with
            | .error cause => .error cause
            | .ok (cs, isEscaped, next) => .ok (c :: cs, isEscaped, next)
          else
            .ok ([], false, point)
      | [] => .ok ([], false, point)

/-
  The name at a place and whether it has escapes.  Without
  them it is the longest run of its characters.
-/
def readName
    (point : Point) :
    Except ReadCause (List Char × Bool × Point) :=
  let (run, next) := point.spanWhile Text.isNamePart
  match next.rest with
  | '\\' :: _ => readNameChars (point.rest.length + 1) true point
  | _ =>
      match run with
      | c :: _ =>
          if Text.isNameStart c then
            .ok (run, false, next)
          else
            .ok ([], false, point)
      | [] => .ok ([], false, point)

------------------------------------------------------------
-- Numbers
------------------------------------------------------------

/- Low lines stand alone and between digits. -/
def areSeparated : (canSeparate : Bool) → List Char → Bool
  | canSeparate, [] => canSeparate
  | canSeparate, c :: cs =>
      if c == '_' then
        canSeparate && areSeparated false cs
      else
        areSeparated true cs

/-
  The digits of a class, between which single low lines may
  stand.
-/
def readDigits
    (isDigit : Char → Bool)
    (point : Point) : Except ReadCause (List Char × Point) :=
  let (taken, next) := point.spanWhile fun c => isDigit c || c == '_'
  if taken.isEmpty || areSeparated false taken then
    .ok (taken, next)
  else
    .error .invalidNumber

/- A digit of a number system. -/
def isDigitOf (base : Nat) (c : Char) : Bool :=
  match Text.Quoted.hexValue? c with
  | some value => value < base
  | none => false

/-
  The place after a number: no name and no digit may follow.
  Each of its characters is one byte.
-/
def endNumber
    (begin : Point)
    (isBig : Bool)
    (point : Point) : Reading Token :=
  let spelling :=
    String.ofList
      (begin.rest.take (point.offset - begin.offset))
  match point.rest with
  | c :: _ =>
      if Text.isNameStart c || c.isDigit || c == '\\' then
        .error .invalidNumber
      else
        .ok (.number spelling isBig, point)
  | [] => .ok (.number spelling isBig, point)

/- The end of a number that may be a big one. -/
def endInteger
    (begin point : Point) : Reading Token :=
  match point.rest with
  | 'n' :: rest => endNumber begin true ⟨point.offset + 1, rest⟩
  | _ => endNumber begin false point

/- The exponent of a number, if there is one. -/
def readExponent (point : Point) : Except ReadCause (Bool × Point) :=
  match point.rest with
  | e :: rest =>
      if e = 'e' ∨ e = 'E' then
        let digits : Point :=
          match rest with
          | s :: rest =>
              if s = '+' ∨ s = '-' then
                ⟨point.offset + 2, rest⟩
              else
                ⟨point.offset + 1, s :: rest⟩
          | [] => ⟨point.offset + 1, []⟩
        match readDigits Char.isDigit digits with
        | .error cause => .error cause
        | .ok ([], _) => .error .invalidNumber
        | .ok (_, next) => .ok (true, next)
      else
        .ok (false, point)
  | [] => .ok (false, point)

/- The fraction and the exponent of a number, after its point. -/
def readFraction
    (begin point : Point) : Reading Token :=
  match readDigits Char.isDigit point with
  | .error cause => .error cause
  | .ok (_, next) =>
      match readExponent next with
      | .error cause => .error cause
      | .ok (_, next) => endNumber begin false next

/- The digits of a number after the mark of its system. -/
def readBased
    (base : Nat)
    (begin : Point) : Reading Token :=
  match readDigits (isDigitOf base) (begin.after 2) with
  | .error cause => .error cause
  | .ok ([], _) => .error .invalidNumber
  | .ok (_, next) => endInteger begin next

/- A decimal number whose digits before the point were read. -/
def readDecimalTail
    (begin point : Point) : Reading Token :=
  match point.rest with
  | '.' :: rest => readFraction begin ⟨point.offset + 1, rest⟩
  | _ =>
      match readExponent point with
      | .error cause => .error cause
      | .ok (true, next) => endNumber begin false next
      | .ok (false, next) => endInteger begin next

/- A number that begins with a digit. -/
def readNumber (point : Point) : Reading Token :=
  match point.rest with
  | '0' :: c :: _ =>
      if c = 'x' ∨ c = 'X' then readBased 16 point
      else if c = 'o' ∨ c = 'O' then readBased 8 point
      else if c = 'b' ∨ c = 'B' then readBased 2 point
      else if c.isDigit then
        let (digits, next) := point.spanWhile Char.isDigit
        if digits.all (isDigitOf 8) then
          endNumber point false next
        else
          match next.rest with
          | '.' :: rest => readFraction point ⟨next.offset + 1, rest⟩
          | _ =>
              match readExponent next with
              | .error cause => .error cause
              | .ok (_, next) => endNumber point false next
      else if c = '_' then .error .invalidNumber
      else readDecimalTail point (point.after 1)
  | _ =>
      match readDigits Char.isDigit point with
      | .error cause => .error cause
      | .ok (_, next) => readDecimalTail point next

------------------------------------------------------------
-- Texts, Templates and Patterns
------------------------------------------------------------

/- The codes of a text up to its closing quote. -/
def readTextCodes (quote : Char) :
    (fuel : Nat) → Point → Except ReadCause (List Nat × Point)
  | 0, _ => .error .unterminatedText
  | fuel + 1, point =>
      match point.rest with
      | [] => .error .unterminatedText
      | c :: rest =>
          let next : Point := ⟨point.offset + c.utf8Size, rest⟩
          if c = quote then
            .ok ([], next)
          else if c = '\\' then
            match readEscape next with
            | none => .error .invalidEscape
            | some (codes, next) =>
                match readTextCodes quote fuel next with
                | .error cause => .error cause
                | .ok (others, next) => .ok (codes ++ others, next)
          else if c.toNat = 0xA ∨ c.toNat = 0xD then
            .error .unterminatedText
          else
            match readTextCodes quote fuel next with
            | .error cause => .error cause
            | .ok (others, next) => .ok (c.toNat :: others, next)

/- The text after an opening quote. -/
def readText
    (quote : Char)
    (point : Point) : Reading Token :=
  match readTextCodes quote (point.rest.length + 1) point with
  | .error cause => .error cause
  | .ok (codes, next) => .ok (.text (textOfCodes codes), next)

/- The characters of a template up to its end or its next code. -/
structure TemplateChunk where
  chars : List Char
  isValid : Bool
  isLast : Bool
  next : Point

/- The escape at a place is allowed in a template. -/
def isTemplateEscape (point : Point) : Bool :=
  match point.rest with
  | '0' :: c :: _ => !c.isDigit
  | c :: _ => c = '0' || !c.isDigit && (readEscape point).isSome
  | [] => false

/- The characters of a template, as they are written. -/
def readTemplateChars
    (offset : Nat) :
    List Char → Except ReadCause TemplateChunk
  | [] => .error .unterminatedTemplate
  | '\\' :: c :: rest =>
      let isValid := isTemplateEscape ⟨offset + 1, c :: rest⟩
      match readTemplateChars (offset + 1 + c.utf8Size) rest with
      | .error cause => .error cause
      | .ok chunk =>
          .ok { chunk with
            chars := '\\' :: c :: chunk.chars
            isValid := chunk.isValid && isValid }
  | '$' :: d :: rest =>
      if d = Char.ofNat 0x7B then
        .ok ⟨[], true, false, ⟨offset + 2, rest⟩⟩
      else
        match readTemplateChars (offset + 1) (d :: rest) with
        | .error cause => .error cause
        | .ok chunk => .ok { chunk with chars := '$' :: chunk.chars }
  | c :: rest =>
      if c.toNat = 0x60 then
        .ok ⟨[], true, true, ⟨offset + 1, rest⟩⟩
      else
        match readTemplateChars (offset + c.utf8Size) rest with
        | .error cause => .error cause
        | .ok chunk => .ok { chunk with chars := c :: chunk.chars }

/- Line ends as line feeds. -/
def plainLineEnds : List Char → List Char
  | c :: d :: rest =>
      if c.toNat = 0xD then
        if d.toNat = 0xA then
          d :: plainLineEnds rest
        else
          Char.ofNat 0xA :: plainLineEnds (d :: rest)
      else
        c :: plainLineEnds (d :: rest)
  | [c] => if c.toNat = 0xD then [Char.ofNat 0xA] else [c]
  | [] => []

/-
  A piece of a template, after the grave accent that opens it
  or the brace that closes a piece of code in it.
-/
def readTemplate (point : Point) : Reading Token :=
  match readTemplateChars point.offset point.rest with
  | .error cause => .error cause
  | .ok chunk =>
      let chars :=
        if chunk.isValid then
          plainLineEnds chunk.chars
        else
          chunk.chars
      .ok
        (.template (String.ofList chars) chunk.isValid chunk.isLast,
          chunk.next)

/- The place after a pattern's closing slash. -/
def skipPattern (offset : Nat) (inClass : Bool) : List Char → Option Point
  | [] => none
  | '\\' :: c :: rest =>
      if Text.isLineEnd c then
        none
      else
        skipPattern (offset + 1 + c.utf8Size) inClass rest
  | c :: rest =>
      if Text.isLineEnd c then
        none
      else if c = '/' && !inClass then
        some ⟨offset + 1, rest⟩
      else
        skipPattern (offset + c.utf8Size)
          (c = '[' || inClass && c != ']') rest

/- Flags of a pattern, each at most once. -/
def areFlags : List Char → Bool
  | [] => true
  | c :: cs =>
      "dgimsuvy".toList.contains c && !cs.contains c
        && areFlags cs

/- The place after a pattern, given the place after its first slash. -/
def readPattern (point : Point) : Except ReadCause Point :=
  match skipPattern point.offset false point.rest with
  | none => .error .unterminatedPattern
  | some next =>
      let (flags, next) :=
        next.spanWhile fun c => Text.isNamePart c || c == '\\'
      if areFlags flags then
        .ok next
      else
        .error .invalidPatternFlags

------------------------------------------------------------
-- Punctuators
------------------------------------------------------------

/- The punctuator at the front and its length. -/
def readPunct : List Char → Option (Punct × Nat)
  | '.' :: '.' :: '.' :: _ => some (.ellipsis, 3)
  | '.' :: _ => some (.dot, 1)
  | '?' :: '?' :: '=' :: _ => some (.compoundAssign, 3)
  | '?' :: '?' :: _ => some (.coalesce, 2)
  | '?' :: '.' :: c :: _ =>
      if c.isDigit then
        some (.question, 1)
      else
        some (.questionDot, 2)
  | ['?', '.'] => some (.questionDot, 2)
  | '?' :: _ => some (.question, 1)
  | '=' :: '=' :: '=' :: _ => some (.equality, 3)
  | '=' :: '=' :: _ => some (.equality, 2)
  | '=' :: '>' :: _ => some (.arrow, 2)
  | '=' :: _ => some (.equals, 1)
  | '!' :: '=' :: '=' :: _ => some (.equality, 3)
  | '!' :: '=' :: _ => some (.equality, 2)
  | '!' :: _ => some (.bang, 1)
  | '+' :: '+' :: _ => some (.plusPlus, 2)
  | '+' :: '=' :: _ => some (.compoundAssign, 2)
  | '+' :: _ => some (.plus, 1)
  | '-' :: '-' :: _ => some (.minusMinus, 2)
  | '-' :: '=' :: _ => some (.compoundAssign, 2)
  | '-' :: _ => some (.minus, 1)
  | '*' :: '*' :: '=' :: _ => some (.compoundAssign, 3)
  | '*' :: '*' :: _ => some (.power, 2)
  | '*' :: '=' :: _ => some (.compoundAssign, 2)
  | '*' :: _ => some (.star, 1)
  | '/' :: '=' :: _ => some (.slashAssign, 2)
  | '/' :: _ => some (.slash, 1)
  | '%' :: '=' :: _ => some (.compoundAssign, 2)
  | '%' :: _ => some (.percent, 1)
  | '&' :: '&' :: '=' :: _ => some (.compoundAssign, 3)
  | '&' :: '&' :: _ => some (.conjunction, 2)
  | '&' :: '=' :: _ => some (.compoundAssign, 2)
  | '&' :: _ => some (.ampersand, 1)
  | '|' :: '|' :: '=' :: _ => some (.compoundAssign, 3)
  | '|' :: '|' :: _ => some (.disjunction, 2)
  | '|' :: '=' :: _ => some (.compoundAssign, 2)
  | '|' :: _ => some (.bar, 1)
  | '^' :: '=' :: _ => some (.compoundAssign, 2)
  | '^' :: _ => some (.caret, 1)
  | c :: _ =>
      if c = '(' then some (.openParen, 1)
      else if c = ')' then some (.closeParen, 1)
      else if c = '[' then some (.openBracket, 1)
      else if c = ']' then some (.closeBracket, 1)
      else if c.toNat = 0x7B then some (.openBrace, 1)
      else if c.toNat = 0x7D then some (.closeBrace, 1)
      else if c = ',' then some (.comma, 1)
      else if c = ';' then some (.semicolon, 1)
      else if c = ':' then some (.colon, 1)
      else if c = '<' then some (.less, 1)
      else if c = '>' then some (.greater, 1)
      else if c = '~' then some (.tilde, 1)
      else if c = '@' then some (.atSign, 1)
      else none
  | [] => none

------------------------------------------------------------
-- Tokens
------------------------------------------------------------

/- A punctuator that begins at a place. -/
def readPunctToken (point : Point) : Reading Token :=
  match readPunct point.rest with
  | some (punct, length) => .ok (.punct punct, point.after length)
  | none => .error .invalidCharacter

/- A name that begins at a place. -/
def readNameToken (point : Point) : Reading Token :=
  match readName point with
  | .error cause => .error cause
  | .ok ([], _, _) => .error .invalidCharacter
  | .ok (cs, isEscaped, next) =>
      let text := String.ofList cs
      let length := next.offset - point.offset
      let spelling :=
        if isEscaped then
          String.ofList (Text.clip point.rest 0 length)
        else
          text
      .ok (.name text spelling, next)

/- The token at a place that no blank begins. -/
def readToken (point : Point) : Reading Token :=
  match point.rest with
  | [] => .ok (.finish, point)
  | c :: rest =>
      let next : Point := ⟨point.offset + c.utf8Size, rest⟩
      if c = '"' ∨ c.toNat = 0x27 then
        readText c next
      else if c.toNat = 0x60 then
        readTemplate next
      else if c.isDigit then
        readNumber point
      else if c = '#' then
        match readName next with
        | .error cause => .error cause
        | .ok ([], _, _) => .error .invalidCharacter
        | .ok (cs, _, next) => .ok (.privateName (String.ofList cs), next)
      else if Text.isNameStart c ∨ c = '\\' then
        readNameToken point
      else
        match c, rest with
        | '.', d :: _ =>
            if d.isDigit then
              readFraction point next
            else
              readPunctToken point
        | _, _ => readPunctToken point

end MarkupLowering.Script
