import MarkupLowering.Text.Quoted

/-
  This file gives the grammar of text between double quotes
  and shows that reading follows it.  What is written for a
  text is a literal by the grammar.  So a text is read back as
  it was, whatever follows its literal, and nothing after the
  literal is taken for a part of it.

  Key definitions include:
    * `Quoted.SpellsChar`
    * `Quoted.Spells`
    * `Quoted.IsLiteralOf`

  Key theorems include:
    * `Quoted.read_eq_some_iff`
    * `Quoted.readBody_flatMap_escape`
    * `Quoted.read_literalChars`
    * `Quoted.IsLiteralOf.unique`
    * `Quoted.literal_delimits_itself`
-/

namespace MarkupLowering.Text.Quoted

------------------------------------------------------------
-- Grammar
------------------------------------------------------------

/- A character as it may be spelled inside double quotes. -/
inductive SpellsChar : List Char → Char → Prop
  | plain
      {c : Char}
      (hQuote : c ≠ '"')
      (hSlash : c ≠ '\\')
      (hControl : ¬c.toNat < 0x20) :
      SpellsChar [c] c
  | short
      {letter c : Char}
      (hShort : shortEscape? letter = some c) :
      SpellsChar ['\\', letter] c
  | code
      {a b c d : Char}
      {code : Nat}
      (hCode : hexValue4? a b c d = some code)
      (hHigh : isHighHalf code = false)
      (hLow : isLowHalf code = false) :
      SpellsChar ['\\', 'u', a, b, c, d] (Char.ofNat code)
  | pair
      {a b c d e f g h : Char}
      {high low : Nat}
      (hFirst : hexValue4? a b c d = some high)
      (hHigh : isHighHalf high = true)
      (hSecond : hexValue4? e f g h = some low)
      (hLow : isLowHalf low = true) :
      SpellsChar
        ['\\', 'u', a, b, c, d, '\\', 'u', e, f, g, h]
        (pairChar high low)

/- A text as it may be spelled inside double quotes. -/
inductive Spells : List Char → List Char → Prop
  | nil : Spells [] []
  | cons
      {piece body : List Char}
      {c : Char}
      {cs : List Char}
      (hFirst : SpellsChar piece c)
      (hRest : Spells body cs) :
      Spells (piece ++ body) (c :: cs)

/- The characters are a literal of the text. -/
def IsLiteralOf (chars text : List Char) : Prop :=
  ∃ body, chars = '"' :: (body ++ ['"']) ∧ Spells body text

------------------------------------------------------------
-- Reading by the Grammar
------------------------------------------------------------

/- A short escape is read as the character it stands for. -/
theorem readBody_short
    {c letter : Char}
    (hShort : shortEscape? letter = some c)
    (rest : List Char) :
    readBody ('\\' :: letter :: rest) =
      prepend c (readBody rest) := by
  have hLetter : letter ≠ 'u' := by
    intro hEq
    have hNone : shortEscape? 'u' = none := by decide
    rw [hEq, hNone] at hShort
    cases hShort
  rw [readBody.eq_def]
  simp [hLetter, hShort]

/- A spelled character is read as it is meant. -/
theorem SpellsChar.readBody_append
    {piece : List Char}
    {c : Char}
    (hPiece : SpellsChar piece c)
    (rest : List Char) :
    readBody (piece ++ rest) = prepend c (readBody rest) := by
  cases hPiece with
  | plain hQuote hSlash hControl =>
      rw [List.singleton_append, readBody.eq_def]
      simp only [if_neg hQuote, if_neg hSlash, if_neg hControl]
  | short hShort => exact readBody_short hShort rest
  | code hCode hHigh hLow =>
      simp only [List.cons_append, List.nil_append]
      rw [readBody]
      simp [hCode, hHigh, hLow]
  | pair hFirst hHigh hSecond hLow =>
      simp only [List.cons_append, List.nil_append]
      rw [readBody]
      simp [hFirst, hHigh, hSecond, hLow]

/- A spelled text is read up to the quote after it. -/
theorem Spells.readBody_append
    {body cs : List Char}
    (hBody : Spells body cs)
    (rest : List Char) :
    readBody (body ++ '"' :: rest) = some (cs, rest) := by
  induction hBody with
  | nil =>
      rw [List.nil_append, readBody.eq_def]
      rfl
  | cons hFirst _ ih =>
      rw [List.append_assoc, hFirst.readBody_append, ih]
      rfl

theorem exists_of_prepend_eq_some
    {c : Char}
    {result : Option (List Char × List Char)}
    {text rest : List Char}
    (hPrepend : prepend c result = some (text, rest)) :
    ∃ cs, result = some (cs, rest) ∧ text = c :: cs := by
  cases result with
  | none => cases hPrepend
  | some found =>
      cases hPrepend
      exact ⟨found.1, rfl, rfl⟩

/-
  One more character in front of a text that is spelled up to
  a quote.
-/
theorem exists_spells_of_prepend
    {piece behind text rest : List Char}
    {c : Char}
    (hPiece : SpellsChar piece c)
    (hBehind :
      ∀ {cs : List Char},
        readBody behind = some (cs, rest) →
          ∃ body, behind = body ++ '"' :: rest ∧ Spells body cs)
    (hPrepend :
      prepend c (readBody behind) = some (text, rest)) :
    ∃ body,
      piece ++ behind = body ++ '"' :: rest ∧
        Spells body text := by
  rcases exists_of_prepend_eq_some hPrepend with
    ⟨cs, hRead, hText⟩
  rcases hBehind hRead with ⟨body, hSplit, hSpells⟩
  refine ⟨piece ++ body, ?_, ?_⟩
  · rw [hSplit, List.append_assoc]
  · rw [hText]
    exact Spells.cons hPiece hSpells

/- What is read up to a quote is spelled by the grammar. -/
theorem exists_spells_of_readBody
    {chars text rest : List Char}
    (hRead : readBody chars = some (text, rest)) :
    ∃ body,
      chars = body ++ '"' :: rest ∧ Spells body text := by
  fun_induction readBody chars generalizing text with
  | case2 rest =>
      cases hRead
      exact ⟨[], rfl, Spells.nil⟩
  | case5 a b c d high hFirst hHigh e f g h behind low hSecond
      hLow _ ih =>
      exact exists_spells_of_prepend
        (SpellsChar.pair hFirst hHigh hSecond hLow) ih hRead
  | case9 a b c d behind code hCode hHigh hLow _ ih =>
      exact exists_spells_of_prepend
        (SpellsChar.code hCode (Bool.eq_false_iff.mpr hHigh)
          (Bool.eq_false_iff.mpr hLow)) ih hRead
  | case10 letter behind _ c hShort _ ih =>
      exact exists_spells_of_prepend
        (SpellsChar.short hShort) ih hRead
  | case14 c behind hQuote hSlash hControl ih =>
      exact exists_spells_of_prepend
        (SpellsChar.plain hQuote hSlash hControl) ih hRead
  | case1 | case3 | case4 | case6 | case7 | case8 | case11
  | case12 | case13 =>
      cases hRead

/-
  Reading takes a literal off the front and leaves what is
  behind it.
-/
theorem read_eq_some_iff
    {chars text rest : List Char} :
    read chars = some (text, rest) ↔
      ∃ front,
        chars = front ++ rest ∧ IsLiteralOf front text := by
  constructor
  · intro hRead
    unfold read at hRead
    split at hRead
    · rcases exists_spells_of_readBody hRead with
        ⟨body, hBody, hSpells⟩
      refine ⟨'"' :: (body ++ ['"']), ?_, body, rfl, hSpells⟩
      rw [hBody, List.cons_append, List.append_assoc]
      rfl
    · cases hRead
  · rintro ⟨front, hChars, body, hFront, hSpells⟩
    rw [hChars, hFront, List.cons_append, List.append_assoc]
    exact hSpells.readBody_append rest

/- Characters begin with one literal at most. -/
theorem IsLiteralOf.unique
    {first firstText firstRest : List Char}
    {second secondText secondRest : List Char}
    (hFirst : IsLiteralOf first firstText)
    (hSecond : IsLiteralOf second secondText)
    (hSame : first ++ firstRest = second ++ secondRest) :
    first = second ∧
      firstText = secondText ∧ firstRest = secondRest := by
  have hReadFirst :
      read (first ++ firstRest) = some (firstText, firstRest) :=
    read_eq_some_iff.mpr ⟨first, rfl, hFirst⟩
  have hReadSecond :
      read (first ++ firstRest) =
        some (secondText, secondRest) :=
    read_eq_some_iff.mpr ⟨second, hSame, hSecond⟩
  rw [hReadFirst] at hReadSecond
  cases hReadSecond
  exact ⟨List.append_cancel_right hSame, rfl, rfl⟩

------------------------------------------------------------
-- Control Characters
------------------------------------------------------------

theorem not_control_of_shortEscape?
    {letter c : Char}
    (hShort : shortEscape? letter = some c) :
    ¬letter.toNat < 0x20 := by
  intro hControl
  have hNone :
      ∀ code < 0x20, shortEscape? (Char.ofNat code) = none := by
    decide
  have hLetter := hNone letter.toNat hControl
  rw [Char.ofNat_toNat, hShort] at hLetter
  cases hLetter

theorem not_control_of_hexValue?
    {c : Char}
    {digit : Nat}
    (hDigit : hexValue? c = some digit) :
    ¬c.toNat < 0x20 := by
  intro hControl
  have hNone :
      ∀ code < 0x20, hexValue? (Char.ofNat code) = none := by
    decide
  have hChar := hNone c.toNat hControl
  rw [Char.ofNat_toNat, hDigit] at hChar
  cases hChar

theorem not_control_of_hexValue4?
    {a b c d : Char}
    {code : Nat}
    (hCode : hexValue4? a b c d = some code) :
    ∀ sign ∈ [a, b, c, d], ¬sign.toNat < 0x20 := by
  unfold hexValue4? at hCode
  split at hCode
  · rename_i hFirst hSecond hThird hFourth
    simp only [List.forall_mem_cons]
    exact
      ⟨not_control_of_hexValue? hFirst,
        not_control_of_hexValue? hSecond,
        not_control_of_hexValue? hThird,
        not_control_of_hexValue? hFourth,
        List.forall_mem_nil _⟩
  · cases hCode

theorem SpellsChar.not_control
    {piece : List Char}
    {c : Char}
    (hPiece : SpellsChar piece c) :
    ∀ sign ∈ piece, ¬sign.toNat < 0x20 := by
  have hSlash : ¬ '\\'.toNat < 0x20 := by decide
  have hLetter : ¬ 'u'.toNat < 0x20 := by decide
  cases hPiece with
  | plain hQuote hSlash hControl =>
      exact List.forall_mem_singleton.mpr hControl
  | short hShort =>
      exact List.forall_mem_cons.mpr
        ⟨hSlash, List.forall_mem_singleton.mpr
          (not_control_of_shortEscape? hShort)⟩
  | code hCode hHigh hLow =>
      exact List.forall_mem_cons.mpr
        ⟨hSlash, List.forall_mem_cons.mpr
          ⟨hLetter, not_control_of_hexValue4? hCode⟩⟩
  | @pair a b c d e f g h high low hFirst hHigh hSecond hLow =>
      have hHalf :
          ∀ sign ∈ '\\' :: 'u' :: [e, f, g, h],
            ¬sign.toNat < 0x20 :=
        List.forall_mem_cons.mpr
          ⟨hSlash, List.forall_mem_cons.mpr
            ⟨hLetter, not_control_of_hexValue4? hSecond⟩⟩
      exact List.forall_mem_cons.mpr
        ⟨hSlash, List.forall_mem_cons.mpr
          ⟨hLetter, List.forall_mem_append.mpr
            ⟨not_control_of_hexValue4? hFirst, hHalf⟩⟩⟩

theorem Spells.not_control
    {body cs : List Char}
    (hBody : Spells body cs) :
    ∀ sign ∈ body, ¬sign.toNat < 0x20 := by
  induction hBody with
  | nil => exact List.forall_mem_nil _
  | cons hFirst _ ih =>
      exact List.forall_mem_append.mpr
        ⟨hFirst.not_control, ih⟩

/- A literal of any text is free of control characters. -/
theorem IsLiteralOf.not_control
    {chars text : List Char}
    (hLiteral : IsLiteralOf chars text) :
    ∀ sign ∈ chars, ¬sign.toNat < 0x20 := by
  have hQuote : ¬ '"'.toNat < 0x20 := by decide
  rcases hLiteral with ⟨body, hChars, hSpells⟩
  rw [hChars]
  exact List.forall_mem_cons.mpr
    ⟨hQuote, List.forall_mem_append.mpr
      ⟨hSpells.not_control,
        List.forall_mem_singleton.mpr hQuote⟩⟩

------------------------------------------------------------
-- Writing
------------------------------------------------------------

/- Hexadecimal digits are read as they are written. -/
theorem hexValue?_hexDigit
    {n : Nat}
    (hDigit : n < 16) :
    hexValue? (hexDigit n) = some n := by
  revert n
  decide

/- Two digits after two zeros give any code below 256. -/
theorem hexValue4?_hexDigit
    {code : Nat}
    (hCode : code < 256) :
    hexValue4? '0' '0' (hexDigit (code / 16))
        (hexDigit (code % 16)) =
      some code := by
  have hHigh : hexValue? (hexDigit (code / 16)) = some (code / 16) :=
    hexValue?_hexDigit (by omega)
  have hLow : hexValue? (hexDigit (code % 16)) = some (code % 16) :=
    hexValue?_hexDigit (by omega)
  have hZero : hexValue? '0' = some 0 := by decide
  unfold hexValue4?
  rw [hHigh, hLow, hZero]
  simp only [Option.some.injEq]
  omega

/-
  A character is written by a short escape, by its code, or as
  it is.
-/
theorem escape_cases
    (c : Char) :
    (∃ letter,
      escape c = ['\\', letter] ∧
        shortEscape? letter = some c) ∨
    (c.toNat < 0x20 ∧
      escape c =
        ['\\', 'u', '0', '0', hexDigit (c.toNat / 16),
          hexDigit (c.toNat % 16)]) ∨
    (c ≠ '"' ∧ c ≠ '\\' ∧ ¬c.toNat < 0x20 ∧
      escape c = [c]) := by
  -- A letter stands for the character of its code.
  have hLetter :
      ∀ letter code,
        c.toNat = code →
        shortEscape? letter = some (Char.ofNat code) →
          shortEscape? letter = some c := by
    intro letter code hCode hShort
    rw [hShort, ← hCode, Char.ofNat_toNat]
  unfold escape
  split
  · rename_i hQuote
    exact Or.inl ⟨'"', rfl, by rw [hQuote]; rfl⟩
  split
  · rename_i hSlash
    exact Or.inl ⟨'\\', rfl, by rw [hSlash]; rfl⟩
  split
  · rename_i hCode
    exact Or.inl ⟨'b', rfl, hLetter 'b' _ hCode (by decide)⟩
  split
  · rename_i hCode
    exact Or.inl ⟨'t', rfl, hLetter 't' _ hCode (by decide)⟩
  split
  · rename_i hCode
    exact Or.inl ⟨'n', rfl, hLetter 'n' _ hCode (by decide)⟩
  split
  · rename_i hCode
    exact Or.inl ⟨'f', rfl, hLetter 'f' _ hCode (by decide)⟩
  split
  · rename_i hCode
    exact Or.inl ⟨'r', rfl, hLetter 'r' _ hCode (by decide)⟩
  split
  · rename_i hControl
    exact Or.inr (Or.inl ⟨hControl, rfl⟩)
  · rename_i hQuote hSlash _ _ _ _ _ hControl
    exact Or.inr (Or.inr ⟨hQuote, hSlash, hControl, rfl⟩)

/- A character is written by the grammar. -/
theorem spellsChar_escape
    (c : Char) :
    SpellsChar (escape c) c := by
  rcases escape_cases c with
    ⟨letter, hEscape, hShort⟩ | ⟨hControl, hEscape⟩ |
      ⟨hQuote, hSlash, hControl, hEscape⟩
  · rw [hEscape]
    exact SpellsChar.short hShort
  · have hValue :=
      hexValue4?_hexDigit (Nat.lt_trans hControl (by decide))
    have hHigh : isHighHalf c.toNat = false := by
      simp [isHighHalf]
      omega
    have hLow : isLowHalf c.toNat = false := by
      simp [isLowHalf]
      omega
    have hSpells := SpellsChar.code hValue hHigh hLow
    rw [Char.ofNat_toNat] at hSpells
    rw [hEscape]
    exact hSpells
  · rw [hEscape]
    exact SpellsChar.plain hQuote hSlash hControl

theorem spells_flatMap_escape
    (cs : List Char) :
    Spells (cs.flatMap escape) cs := by
  induction cs with
  | nil => exact Spells.nil
  | cons c cs ih =>
      rw [List.flatMap_cons]
      exact Spells.cons (spellsChar_escape c) ih

/- What is written for a text is a literal of the text. -/
theorem isLiteralOf_literalChars
    (cs : List Char) :
    IsLiteralOf (literalChars cs) cs :=
  ⟨cs.flatMap escape, rfl, spells_flatMap_escape cs⟩

/- A backslash, a quote, a line feed and another control character. -/
example :
    literalChars ['\\', '"', '\n', Char.ofNat 1] =
      ['"', '\\', '\\', '\\', '"', '\\', 'n', '\\', 'u',
        '0', '0', '0', '1', '"'] := by
  decide

/- Escaped text is read up to the quote after it. -/
theorem readBody_flatMap_escape
    (cs rest : List Char) :
    readBody (cs.flatMap escape ++ '"' :: rest) =
      some (cs, rest) :=
  (spells_flatMap_escape cs).readBody_append rest

/- A literal is read as its text, and nothing after it. -/
theorem read_literalChars
    (cs rest : List Char) :
    read (literalChars cs ++ rest) = some (cs, rest) :=
  read_eq_some_iff.mpr
    ⟨literalChars cs, rfl, isLiteralOf_literalChars cs⟩

/- What is written for a string is a literal of its text. -/
theorem isLiteralOf_literal
    (text : String) :
    IsLiteralOf (literal text).toList text.toList := by
  rw [literal, String.toList_ofList]
  exact isLiteralOf_literalChars text.toList

------------------------------------------------------------
-- Literals in Front of Text
------------------------------------------------------------

/-
  The literal of a text shows where it ends: in front of any
  other text it is read back, and nothing else at the front is
  a literal by the grammar.  No control character stands in it,
  and different texts have different literals.
-/
theorem literal_delimits_itself
    (text rest : String) :
    read ((literal text).toList ++ rest.toList) =
        some (text.toList, rest.toList) ∧
      (∀ front value back : List Char,
        front ++ back = (literal text).toList ++ rest.toList ∧
            IsLiteralOf front value ↔
          front = (literal text).toList ∧
            value = text.toList ∧ back = rest.toList) ∧
      (∀ c ∈ (literal text).toList,
        0x20 ≤ c.toNat ∧ c ≠ '\n' ∧ c ≠ '\r') ∧
      ∀ other : String,
        literal other = literal text ↔ other = text := by
  have hLiteral := isLiteralOf_literal text
  refine ⟨?_, ?_, ?_, ?_⟩
  · exact read_eq_some_iff.mpr ⟨_, rfl, hLiteral⟩
  · intro front value back
    constructor
    · rintro ⟨hSame, hFront⟩
      exact hFront.unique hLiteral hSame
    · rintro ⟨hFront, hValue, hBack⟩
      rw [hFront, hValue, hBack]
      exact ⟨rfl, hLiteral⟩
  · intro c hMem
    have hControl := hLiteral.not_control c hMem
    refine ⟨Nat.le_of_not_lt hControl, ?_, ?_⟩
    · rintro rfl
      exact hControl (by decide)
    · rintro rfl
      exact hControl (by decide)
  · intro other
    constructor
    · intro hSame
      have hOther := isLiteralOf_literal other
      rw [hSame] at hOther
      have hSelf :
          (literal text).toList ++ [] =
            (literal text).toList ++ [] :=
        rfl
      exact String.toList_inj.mp
        (hOther.unique hLiteral hSelf).2.1
    · rintro rfl
      rfl

end MarkupLowering.Text.Quoted
