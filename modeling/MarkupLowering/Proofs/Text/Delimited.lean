import MarkupLowering.Proofs.Text.Quoting

/-
  This file defines how code is scanned for its brackets and
  commas, and when a token of code is delimited, so that it
  can be told from what stands around it.

  A scan knows texts between double quotes, with backslashes
  in them, and three kinds of brackets.  A token is delimited
  if its brackets match and no comma stands outside of them.
  Tokens joined by commas can be separated again, and brackets
  around them make one delimited token.

  Key definitions include:
    * `Scan`
    * `Scan.next`
    * `Scan.through`
    * `Scan.isWhole`
    * `Scan.pieces`
    * `Scan.untilOutside`
    * `isDelimited`
    * `readItems`
    * `readGroup`

  Key theorems include:
    * `Scan.isWhole_under`
    * `Scan.isWhole_induction`
    * `Scan.isWhole_bracketed`
    * `Scan.isWhole_literalChars`
    * `Scan.pieces_intercalate`
    * `isDelimitedChars_bracketed`
    * `readItems_intercalate`
    * `readGroup_bracketed`
-/

namespace MarkupLowering.Text

------------------------------------------------------------
-- Scanning
------------------------------------------------------------

/- What a scan reads: code, quoted text, or an escape in it. -/
inductive ScanMode where
  | code
  | quoted
  | escaped
deriving DecidableEq, Repr

/-
  Where a scan stands: the closing brackets that are due,
  innermost first, and what it reads.
-/
structure Scan where
  due : List Char
  mode : ScanMode
deriving DecidableEq, Repr

/- The bracket that closes an opening one. -/
def closer? (c : Char) : Option Char :=
  if c = '(' then some ')'
  else if c = '[' then some ']'
  else if c = '\x7b' then some '\x7d'
  else none

/- The character is a closing bracket. -/
def isCloser (c : Char) : Bool :=
  c == ')' || c == ']' || c == '\x7d'

namespace Scan

/- Outside of all brackets and texts. -/
def outside : Scan :=
  ⟨[], .code⟩

/-
  Where a scan stands after a character.  A closing bracket
  that is not due ends the scan.
-/
def next
    (scan : Scan)
    (c : Char) : Option Scan :=
  match scan.mode with
  | .escaped => some { scan with mode := .quoted }
  | .quoted =>
      if c = '\\' then some { scan with mode := .escaped }
      else if c = '"' then some { scan with mode := .code }
      else some scan
  | .code =>
      if c = '"' then some { scan with mode := .quoted }
      else
        match closer? c with
        | some closing =>
            some { scan with due := closing :: scan.due }
        | none =>
            if isCloser c then
              match scan.due with
              | [] => none
              | closing :: due =>
                  if c = closing then some { scan with due := due }
                  else none
            else
              some scan

/- Where a scan stands after characters. -/
def through : Scan → List Char → Option Scan
  | scan, [] => some scan
  | scan, c :: rest =>
      match scan.next c with
      | some next => next.through rest
      | none => none

/- The character is a comma outside of all brackets and texts. -/
def separates
    (scan : Scan)
    (c : Char) : Bool :=
  scan == outside && c == ','

/-
  The scan goes through the characters, ends outside of
  brackets and texts, and meets no comma there.
-/
def isWhole : Scan → List Char → Bool
  | scan, [] => scan == outside
  | scan, c :: rest =>
      !scan.separates c &&
        match scan.next c with
        | some next => next.isWhole rest
        | none => false

/- Put a character in front of the first piece. -/
def extendFirst
    (c : Char) : List (List Char) → List (List Char)
  | [] => [[c]]
  | first :: rest => (c :: first) :: rest

/-
  The pieces between the commas outside of brackets and texts.
  There are none unless the scan ends outside.
-/
def pieces : Scan → List Char → Option (List (List Char))
  | scan, [] => if scan = outside then some [[]] else none
  | scan, c :: rest =>
      if scan.separates c then
        (outside.pieces rest).map ([] :: ·)
      else
        match scan.next c with
        | some next => (next.pieces rest).map (extendFirst c)
        | none => none

/-
  The characters up to where the scan is outside of brackets
  and texts again, and the rest.
-/
def untilOutside :
    Scan → List Char → Option (List Char × List Char)
  | _, [] => none
  | scan, c :: rest =>
      match scan.next c with
      | none => none
      | some next =>
          if next = outside then
            some ([c], rest)
          else
            (next.untilOutside rest).map fun parts =>
              (c :: parts.1, parts.2)

end Scan

/- The characters are a delimited token. -/
def isDelimitedChars (token : List Char) : Bool :=
  !token.isEmpty && Scan.outside.isWhole token

/- The text is a delimited token. -/
def isDelimited (token : String) : Bool :=
  isDelimitedChars token.toList

theorem isDelimitedChars_iff
    {token : List Char} :
    isDelimitedChars token = true ↔
      token ≠ [] ∧ Scan.outside.isWhole token = true := by
  simp [isDelimitedChars]

------------------------------------------------------------
-- Reading Items
------------------------------------------------------------

/- The characters behind a leading space. -/
def dropSpace : List Char → Option (List Char)
  | ' ' :: rest => some rest
  | _ => none

/-
  The items of a list.  They stand between commas, and a space
  comes before each but the first.
-/
def readItems (cs : List Char) : Option (List (List Char)) :=
  if cs.isEmpty then
    some []
  else
    match Scan.outside.pieces cs with
    | some (first :: rest) =>
        (rest.mapM dropSpace).map (first :: ·)
    | _ => none

/- The characters between two brackets. -/
def unwrap
    (opening closing : Char) : List Char → Option (List Char)
  | [] => none
  | c :: rest =>
      if c = opening ∧ rest.getLast? = some closing then
        some rest.dropLast
      else
        none

/- What stands between brackets at the front, and the rest. -/
def readGroup
    (opening closing : Char)
    (cs : List Char) : Option (List Char × List Char) := do
  let (group, rest) ← Scan.outside.untilOutside cs
  let inside ← unwrap opening closing group
  return (inside, rest)

theorem unwrap_bracketed
    (opening closing : Char)
    (inside : List Char) :
    unwrap opening closing (opening :: (inside ++ [closing])) =
      some inside := by
  simp [unwrap]

------------------------------------------------------------
-- Scans inside Brackets
------------------------------------------------------------

namespace Scan

/- The same place inside of further brackets. -/
def under
    (base : List Char)
    (scan : Scan) : Scan :=
  { scan with due := scan.due ++ base }

theorem under_ne_outside
    {base : List Char}
    (hBase : base ≠ [])
    (scan : Scan) :
    scan.under base ≠ outside := by
  intro hEq
  have hDue := congrArg Scan.due hEq
  exact hBase (List.append_eq_nil_iff.mp hDue).2

theorem separates_under
    {base : List Char}
    (hBase : base ≠ [])
    (scan : Scan)
    (c : Char) :
    (scan.under base).separates c = false := by
  simp [separates, under_ne_outside hBase scan]

/- A step goes the same way inside of further brackets. -/
theorem next_under
    (base : List Char)
    {scan next : Scan}
    {c : Char}
    (hNext : scan.next c = some next) :
    (scan.under base).next c = some (next.under base) := by
  rcases scan with ⟨due, mode⟩
  cases mode with
  | escaped =>
      cases hNext
      rfl
  | quoted =>
      simp only [Scan.next, under] at hNext ⊢
      by_cases hSlash : c = '\\'
      · rw [if_pos hSlash] at hNext ⊢
        cases hNext
        rfl
      rw [if_neg hSlash] at hNext ⊢
      by_cases hQuote : c = '"'
      · rw [if_pos hQuote] at hNext ⊢
        cases hNext
        rfl
      · rw [if_neg hQuote] at hNext ⊢
        cases hNext
        rfl
  | code =>
      simp only [Scan.next, under] at hNext ⊢
      by_cases hQuote : c = '"'
      · rw [if_pos hQuote] at hNext ⊢
        cases hNext
        rfl
      rw [if_neg hQuote] at hNext ⊢
      cases hOpens : closer? c with
      | some closing =>
          rw [hOpens] at hNext
          cases hNext
          rfl
      | none =>
          rw [hOpens] at hNext
          by_cases hCloses : isCloser c = true
          · -- What closes a bracket of its own leaves the base.
            simp only [hCloses, if_true] at hNext ⊢
            cases due with
            | nil =>
                cases hNext
            | cons closing due =>
                by_cases hDue : c = closing
                · simp only [List.cons_append, if_pos hDue]
                    at hNext ⊢
                  cases hNext
                  rfl
                · simp only [if_neg hDue] at hNext
                  cases hNext
          · simp only [hCloses] at hNext ⊢
            cases hNext
            rfl

/- A scan does not leave the brackets around a text in it. -/
theorem untilOutside_under
    {base : List Char}
    (hBase : base ≠ [])
    {scan last : Scan}
    {cs : List Char}
    (hThrough : scan.through cs = some last)
    (rest : List Char) :
    (scan.under base).untilOutside (cs ++ rest) =
      ((last.under base).untilOutside rest).map fun parts =>
        (cs ++ parts.1, parts.2) := by
  induction cs generalizing scan with
  | nil =>
      cases hThrough
      simp
  | cons c cs ih =>
      rw [through] at hThrough
      cases hNext : scan.next c with
      | none =>
          rw [hNext] at hThrough
          cases hThrough
      | some next =>
          rw [hNext] at hThrough
          rw [List.cons_append, untilOutside,
            next_under base hNext]
          simp only [if_neg (under_ne_outside hBase next)]
          rw [ih hThrough, Option.map_map]
          rfl

/- No comma separates inside of brackets. -/
theorem isWhole_under
    {base : List Char}
    (hBase : base ≠ [])
    {scan last : Scan}
    {cs : List Char}
    (hThrough : scan.through cs = some last)
    (rest : List Char) :
    (scan.under base).isWhole (cs ++ rest) =
      (last.under base).isWhole rest := by
  induction cs generalizing scan with
  | nil =>
      cases hThrough
      rfl
  | cons c cs ih =>
      rw [through] at hThrough
      cases hNext : scan.next c with
      | none =>
          rw [hNext] at hThrough
          cases hThrough
      | some next =>
          rw [hNext] at hThrough
          rw [List.cons_append, isWhole, separates_under hBase,
            next_under base hNext]
          exact ih hThrough

------------------------------------------------------------
-- Whole Tokens
------------------------------------------------------------

/-
  Induction over a whole token, one step of the scan at a time.
-/
theorem isWhole_induction
    {motive :
      (scan : Scan) →
      (cs : List Char) →
      scan.isWhole cs = true →
        Prop}
    (nil : motive outside [] rfl)
    (cons :
      ∀ scan next c cs hWhole hRest,
        scan.separates c = false →
        scan.next c = some next →
        motive next cs hRest →
          motive scan (c :: cs) hWhole)
    {scan : Scan}
    {cs : List Char}
    (hWhole : scan.isWhole cs = true) :
    motive scan cs hWhole := by
  induction cs generalizing scan with
  | nil =>
      have hScan : scan = outside := by
        simpa [isWhole] using hWhole
      subst hScan
      exact nil
  | cons c cs ih =>
      have hBoth := hWhole
      rw [isWhole, Bool.and_eq_true, Bool.not_eq_true'] at hBoth
      rcases hBoth with ⟨hComma, hRest⟩
      cases hNext : scan.next c with
      | none =>
          rw [hNext] at hRest
          cases hRest
      | some next =>
          rw [hNext] at hRest
          exact cons scan next c cs hWhole hRest hComma hNext
            (ih hRest)

/- What stands behind a whole token decides on both together. -/
theorem isWhole_append_of_isWhole
    {scan : Scan}
    {cs : List Char}
    (hWhole : scan.isWhole cs = true)
    (rest : List Char) :
    scan.isWhole (cs ++ rest) = outside.isWhole rest := by
  induction hWhole using isWhole_induction with
  | nil =>
      rfl
  | cons scan next c cs _ _ hComma hNext ih =>
      rw [List.cons_append, isWhole, hComma, hNext]
      exact ih

/- A scan goes on from where its first part ends. -/
theorem through_append
    {scan middle : Scan}
    {first : List Char}
    (hFirst : scan.through first = some middle)
    (second : List Char) :
    scan.through (first ++ second) = middle.through second := by
  induction first generalizing scan with
  | nil =>
      cases hFirst
      rfl
  | cons c first ih =>
      rw [through] at hFirst
      rw [List.cons_append, through]
      cases hNext : scan.next c with
      | none =>
          rw [hNext] at hFirst
          cases hFirst
      | some next =>
          rw [hNext] at hFirst
          exact ih hFirst

/- A whole token is scanned through. -/
theorem through_of_isWhole
    {scan : Scan}
    {cs : List Char}
    (hWhole : scan.isWhole cs = true) :
    scan.through cs = some outside := by
  induction hWhole using isWhole_induction with
  | nil =>
      rfl
  | cons scan next c cs _ _ _ hNext ih =>
      rw [through, hNext]
      exact ih

theorem through_append_of_isWhole
    {scan : Scan}
    {cs : List Char}
    (hWhole : scan.isWhole cs = true)
    (rest : List Char) :
    scan.through (cs ++ rest) = outside.through rest :=
  through_append (through_of_isWhole hWhole) rest

/- The pieces behind a whole token are put after it. -/
theorem pieces_append_separator
    {scan : Scan}
    {cs : List Char}
    (hWhole : scan.isWhole cs = true)
    (rest : List Char) :
    scan.pieces (cs ++ ',' :: rest) =
      (outside.pieces rest).map (cs :: ·) := by
  induction hWhole using isWhole_induction with
  | nil =>
      rfl
  | cons scan next c cs _ _ hComma hNext ih =>
      rw [List.cons_append, pieces, hComma, hNext,
        if_neg Bool.false_ne_true]
      simp only
      rw [ih, Option.map_map]
      rfl

/- A whole token is the only piece of itself. -/
theorem pieces_of_isWhole
    {scan : Scan}
    {cs : List Char}
    (hWhole : scan.isWhole cs = true) :
    scan.pieces cs = some [cs] := by
  induction hWhole using isWhole_induction with
  | nil =>
      rfl
  | cons scan next c cs _ _ hComma hNext ih =>
      rw [pieces, hComma, hNext, if_neg Bool.false_ne_true]
      simp only
      rw [ih]
      rfl

------------------------------------------------------------
-- Brackets
------------------------------------------------------------

/- An opening bracket leads inside. -/
theorem next_opening
    {opening closing : Char}
    (hPair : closer? opening = some closing) :
    outside.next opening = some (outside.under [closing]) := by
  have hQuote : opening ≠ '"' := by
    intro hEq
    rw [hEq] at hPair
    cases hPair
  simp only [outside, Scan.next]
  rw [if_neg hQuote, hPair]
  rfl

/- A closing bracket that is due leads outside. -/
theorem next_closing
    {opening closing : Char}
    (hPair : closer? opening = some closing) :
    (outside.under [closing]).next closing = some outside := by
  unfold closer? at hPair
  split at hPair
  · cases hPair
    rfl
  split at hPair
  · cases hPair
    rfl
  split at hPair
  · cases hPair
    rfl
  · cases hPair

/- Brackets around text that is scanned through are whole. -/
theorem isWhole_bracketed
    {opening closing : Char}
    (hPair : closer? opening = some closing)
    {inside : List Char}
    (hInside : outside.through inside = some outside) :
    outside.isWhole (opening :: (inside ++ [closing])) =
      true := by
  have hOpening : outside.separates opening = false := by
    have hComma : opening ≠ ',' := by
      intro hEq
      rw [hEq] at hPair
      cases hPair
    simp [separates, hComma]
  have hBase : [closing] ≠ [] :=
    List.cons_ne_nil closing []
  rw [isWhole, hOpening, next_opening hPair]
  simp only [Bool.not_false, Bool.true_and]
  rw [isWhole_under hBase hInside, isWhole,
    separates_under hBase, next_closing hPair]
  rfl

/- A group of brackets is read, whatever follows it. -/
theorem untilOutside_bracketed
    {opening closing : Char}
    (hPair : closer? opening = some closing)
    {inside : List Char}
    (hInside : outside.through inside = some outside)
    (rest : List Char) :
    outside.untilOutside
        (opening :: (inside ++ closing :: rest)) =
      some (opening :: (inside ++ [closing]), rest) := by
  have hBase : [closing] ≠ [] :=
    List.cons_ne_nil closing []
  rw [untilOutside, next_opening hPair]
  simp only [if_neg (under_ne_outside hBase outside)]
  rw [untilOutside_under hBase hInside, untilOutside,
    next_closing hPair]
  rfl

------------------------------------------------------------
-- Plain Characters
------------------------------------------------------------

/- The character has no meaning for a scan outside of texts. -/
def isPlain (c : Char) : Bool :=
  c != '"' && c != ',' && (closer? c).isNone && !isCloser c

/- A plain character leaves a scan where it is. -/
theorem isWhole_cons_plain
    {c : Char}
    (hPlain : isPlain c = true)
    (rest : List Char) :
    outside.isWhole (c :: rest) = outside.isWhole rest := by
  simp only [isPlain, Bool.and_eq_true, bne_iff_ne,
    Option.isNone_iff_eq_none, Bool.not_eq_true'] at hPlain
  rcases hPlain with ⟨⟨⟨hQuote, hComma⟩, hOpens⟩, hCloses⟩
  have hSeparates : outside.separates c = false := by
    simp [separates, hComma]
  have hNext : outside.next c = some outside := by
    simp [outside, Scan.next, hQuote, hOpens, hCloses]
  rw [isWhole, hSeparates, hNext]
  rfl

/- Plain characters are skipped. -/
theorem isWhole_append_plain
    {cs : List Char}
    (hPlain : ∀ c ∈ cs, isPlain c = true)
    (rest : List Char) :
    outside.isWhole (cs ++ rest) = outside.isWhole rest := by
  induction cs with
  | nil =>
      rfl
  | cons c cs ih =>
      rw [List.cons_append,
        isWhole_cons_plain (hPlain c List.mem_cons_self)]
      exact ih
        (fun d hMem => hPlain d (List.mem_cons_of_mem c hMem))

------------------------------------------------------------
-- Literals
------------------------------------------------------------

/- A quoted text outside of brackets. -/
def inText : Scan :=
  ⟨[], .quoted⟩

theorem isWhole_inText_cons
    {c : Char}
    (hQuote : c ≠ '"')
    (hSlash : c ≠ '\\')
    (rest : List Char) :
    inText.isWhole (c :: rest) = inText.isWhole rest := by
  have hNext : inText.next c = some inText := by
    simp [inText, Scan.next, hQuote, hSlash]
  rw [isWhole, hNext]
  rfl

/- A digit has no meaning in a quoted text. -/
theorem isWhole_inText_hexDigit
    {n : Nat}
    (hDigit : n < 16)
    (rest : List Char) :
    inText.isWhole (Quoted.hexDigit n :: rest) =
      inText.isWhole rest := by
  have hPlain :
      ∀ n < 16,
        Quoted.hexDigit n ≠ '"' ∧ Quoted.hexDigit n ≠ '\\' := by
    decide
  exact isWhole_inText_cons (hPlain n hDigit).1
    (hPlain n hDigit).2 rest

/- An escaped character leaves a scan in the text. -/
theorem isWhole_inText_escape
    (c : Char)
    (rest : List Char) :
    inText.isWhole (Quoted.escape c ++ rest) =
      inText.isWhole rest := by
  rcases Quoted.escape_cases c with
    ⟨letter, hEscape, _⟩ | ⟨hControl, hEscape⟩ |
      ⟨hQuote, hSlash, _, hEscape⟩
  · rw [hEscape]
    rfl
  · have hHigh : c.toNat / 16 < 16 := by omega
    have hLow : c.toNat % 16 < 16 := by omega
    rw [hEscape, ← isWhole_inText_hexDigit hLow rest]
    exact isWhole_inText_hexDigit hHigh _
  · rw [hEscape]
    exact isWhole_inText_cons hQuote hSlash rest

/- A literal is whole, whatever its text. -/
theorem isWhole_literalChars
    (cs : List Char) :
    outside.isWhole (Quoted.literalChars cs) = true := by
  have hBody :
      inText.isWhole (cs.flatMap Quoted.escape ++ ['"']) =
        true := by
    induction cs with
    | nil =>
        rfl
    | cons c cs ih =>
        rw [List.flatMap_cons, List.append_assoc,
          isWhole_inText_escape]
        exact ih
  exact hBody

------------------------------------------------------------
-- Lists of Tokens
------------------------------------------------------------

/-
  A list with a first item is the first item, and the rest of
  the list behind a comma.
-/
theorem intercalate_cons_cons
    (first second : List Char)
    (rest : List (List Char)) :
    [',', ' '].intercalate (first :: second :: rest) =
      first ++
        ',' :: [',', ' '].intercalate ((' ' :: second) :: rest) := by
  cases rest with
  | nil => simp [List.intercalate]
  | cons third rest => simp [List.intercalate]

/- Joined tokens are scanned through. -/
theorem through_intercalate
    {items : List (List Char)}
    (hItems : ∀ item ∈ items, outside.isWhole item = true) :
    outside.through ([',', ' '].intercalate items) =
      some outside := by
  cases items with
  | nil =>
      rfl
  | cons first rest =>
      rcases List.forall_mem_cons.mp hItems with ⟨hFirst, hRest⟩
      clear hItems
      induction rest generalizing first with
      | nil =>
          rw [List.intercalate_singleton]
          exact through_of_isWhole hFirst
      | cons second rest ih =>
          rcases List.forall_mem_cons.mp hRest with
            ⟨hSecond, hRest⟩
          rw [intercalate_cons_cons,
            through_append_of_isWhole hFirst]
          apply ih (' ' :: second) _ hRest
          rw [isWhole_cons_plain (by decide)]
          exact hSecond

/- The commas that join tokens are those that separate them. -/
theorem pieces_intercalate
    {first : List Char}
    {rest : List (List Char)}
    (hFirst : outside.isWhole first = true)
    (hRest : ∀ item ∈ rest, outside.isWhole item = true) :
    outside.pieces ([',', ' '].intercalate (first :: rest)) =
      some (first :: rest.map (' ' :: ·)) := by
  induction rest generalizing first with
  | nil =>
      rw [List.intercalate_singleton]
      exact pieces_of_isWhole hFirst
  | cons second rest ih =>
      rcases List.forall_mem_cons.mp hRest with
        ⟨hSecond, hRest⟩
      have hSpaced : outside.isWhole (' ' :: second) = true := by
        rw [isWhole_cons_plain (by decide)]
        exact hSecond
      rw [intercalate_cons_cons, pieces_append_separator hFirst,
        ih hSpaced hRest]
      rfl

end Scan

/-
  Brackets around joined tokens, and plain characters before
  them, make one token.
-/
theorem isDelimitedChars_bracketed
    {opening closing : Char}
    (hPair : closer? opening = some closing)
    {before : List Char}
    (hPlain : ∀ c ∈ before, Scan.isPlain c = true)
    {items : List (List Char)}
    (hItems : ∀ item ∈ items, isDelimitedChars item = true) :
    isDelimitedChars
        (before ++
          opening ::
            ([',', ' '].intercalate items ++ [closing])) =
      true := by
  have hWhole :
      ∀ item ∈ items, Scan.outside.isWhole item = true := by
    intro item hMem
    exact (isDelimitedChars_iff.mp (hItems item hMem)).2
  rw [isDelimitedChars_iff, Scan.isWhole_append_plain hPlain]
  constructor
  · simp
  · exact
      Scan.isWhole_bracketed hPair
        (Scan.through_intercalate hWhole)

/- What stands between brackets is read, and what follows. -/
theorem readGroup_bracketed
    {opening closing : Char}
    (hPair : closer? opening = some closing)
    {inside : List Char}
    (hInside :
      Scan.outside.through inside = some Scan.outside)
    (rest : List Char) :
    readGroup opening closing
        (opening :: (inside ++ closing :: rest)) =
      some (inside, rest) := by
  rw [readGroup, Scan.untilOutside_bracketed hPair hInside]
  simp [unwrap_bracketed]

/- The space before an item is dropped again. -/
theorem mapM_dropSpace
    (items : List (List Char)) :
    (items.map (' ' :: ·)).mapM dropSpace = some items := by
  induction items with
  | nil =>
      rfl
  | cons item items ih =>
      rw [List.map_cons, List.mapM_cons, ih]
      rfl

/- Delimited tokens that are joined are read as they were. -/
theorem readItems_intercalate
    {items : List (List Char)}
    (hItems : ∀ item ∈ items, isDelimitedChars item = true) :
    readItems ([',', ' '].intercalate items) = some items := by
  cases items with
  | nil =>
      rfl
  | cons first rest =>
      rcases List.forall_mem_cons.mp hItems with
        ⟨hFirst, hOthers⟩
      rcases isDelimitedChars_iff.mp hFirst with
        ⟨hFilled, hWhole⟩
      have hRest :
          ∀ item ∈ rest, Scan.outside.isWhole item = true := by
        intro item hMem
        exact (isDelimitedChars_iff.mp (hOthers item hMem)).2
      have hJoined :
          ([',', ' '].intercalate (first :: rest)).isEmpty =
            false := by
        cases rest with
        | nil => simpa using hFilled
        | cons second rest =>
            rw [Scan.intercalate_cons_cons]
            simp
      rw [readItems, hJoined, if_neg Bool.false_ne_true,
        Scan.pieces_intercalate hWhole hRest]
      simp only
      rw [mapM_dropSpace]
      rfl

end MarkupLowering.Text
