import MarkupLowering.Emission
import MarkupLowering.Text.Identifier
import MarkupLowering.Proofs.Text.Delimited

/-
  This file shows that the text of a template call can be read
  back: it determines the call it was written for, and it is a
  token that other calls can carry.

  Key definitions include:
    * `isIdentifier`
    * `Emission.readTemplateCall`
    * `Emission.Nested`

  Key theorems include:
    * `Emission.templateCall_toList`
    * `Emission.argumentChars_delimited`
    * `Emission.readTemplateCall_templateCall`
    * `Emission.isDelimited_templateCall`
    * `Emission.nested_templateCall_reads_back`
-/

namespace MarkupLowering

------------------------------------------------------------
-- Identifiers
------------------------------------------------------------

/- The character may begin an identifier. -/
def isIdentifierStart (c : Char) : Bool :=
  isWordStart c || Text.isNameStart c

/- The character may continue an identifier. -/
def isIdentifierPart (c : Char) : Bool :=
  isWordPart c || Text.isNamePart c

/-
  The text is an identifier, by the rule for words of code or by
  that for names of a script.
-/
def isIdentifier (text : String) : Bool :=
  match text.toList with
  | [] => false
  | c :: cs => isIdentifierStart c && cs.all isIdentifierPart

/- The characters that structure code, and the space. -/
def structureChars : List Char :=
  ['"', ',', '(', ')', '[', ']', '\x7b', '\x7d', ' ']

theorem structureChars_all :
    structureChars.all
        (fun c => !(isIdentifierStart c || isIdentifierPart c)) =
      true := by
  decide +kernel

/- No such character stands in an identifier. -/
theorem not_isIdentifierChar
    {c : Char}
    (hChar : c ∈ structureChars) :
    isIdentifierStart c = false ∧ isIdentifierPart c = false := by
  have hNone := List.all_eq_true.mp structureChars_all c hChar
  rw [Bool.not_eq_true', Bool.or_eq_false_iff] at hNone
  exact hNone

/- An identifier has none of these characters. -/
theorem isIdentifier_not_mem
    {text : String}
    (hText : isIdentifier text = true)
    {c : Char}
    (hChar : c ∈ structureChars) :
    c ∉ text.toList := by
  intro hMem
  rcases not_isIdentifierChar hChar with ⟨hStart, hPart⟩
  unfold isIdentifier at hText
  cases hChars : text.toList with
  | nil =>
      rw [hChars] at hMem
      cases hMem
  | cons first rest =>
      rw [hChars] at hMem hText
      simp only [Bool.and_eq_true, List.all_eq_true] at hText
      rcases List.mem_cons.mp hMem with hFirst | hRest
      · rw [← hFirst, hStart] at hText
        cases hText.1
      · have hAllowed := hText.2 c hRest
        rw [hPart] at hAllowed
        cases hAllowed

/- What is no such character has no meaning for a scan. -/
theorem isPlain_of_not_mem
    {c : Char}
    (hChar : c ∉ structureChars) :
    Text.Scan.isPlain c = true := by
  simp only [structureChars, List.mem_cons, not_or] at hChar
  simp [Text.Scan.isPlain, Text.closer?, Text.isCloser, hChar]

theorem isIdentifier_plain
    {text : String}
    (hText : isIdentifier text = true) :
    ∀ c ∈ text.toList, Text.Scan.isPlain c = true := by
  intro c hMem
  apply isPlain_of_not_mem
  intro hChar
  exact isIdentifier_not_mem hText hChar hMem

namespace Emission

------------------------------------------------------------
-- Reading a Call
------------------------------------------------------------

/- The text of a literal. -/
def readLiteral (cs : List Char) : Option String :=
  match Text.Quoted.read cs with
  | some (text, []) => some (String.ofList text)
  | _ => none

/- The items between square brackets. -/
def readArray (cs : List Char) : Option (List (List Char)) :=
  (Text.unwrap '[' ']' cs).bind Text.readItems

/- Whether a call constructs, and what it calls. -/
def readHead : List Char → Bool × String
  | 'n' :: 'e' :: 'w' :: ' ' :: callee =>
      (true, String.ofList callee)
  | callee => (false, String.ofList callee)

/- The template of a call with the arguments. -/
def readForm :
    List (List Char) → Option (TemplateForm String)
  | statics :: dynamics :: extraArgs => do
      let statics ← (← readArray statics).mapM readLiteral
      let dynamics ← readArray dynamics
      return {
        statics := statics
        dynamics := dynamics.map String.ofList
        extraArgs := extraArgs.map String.ofList
      }
  | _ => none

/-
  The template call of a text.  What is called stands before the
  first bracket, and the arguments between the commas that are
  in no further bracket.
-/
def readTemplateCall
    (text : String) : Option (TemplateCall String) := do
  let cs := text.toList
  let head := readHead (cs.takeWhile (· != '('))
  let inside ← Text.unwrap '(' ')' (cs.dropWhile (· != '('))
  let form ← readForm (← Text.readItems inside)
  return { callee := head.2, construct := head.1, form := form }

------------------------------------------------------------
-- Characters of a Call
------------------------------------------------------------

/- The characters of a list between brackets. -/
theorem bracketed_toList
    (items : List String) :
    (bracketed items).toList =
      '[' ::
        ([',', ' '].intercalate (items.map String.toList) ++
          [']']) := by
  simp [bracketed, String.toList_append, String.toList_intercalate]

/- What stands before the first bracket of a call. -/
def headChars (call : TemplateCall String) : List Char :=
  (if call.construct then ['n', 'e', 'w', ' '] else []) ++
    call.callee.toList

/- The arguments of a call. -/
def argumentChars
    (form : TemplateForm String) : List (List Char) :=
  (bracketed (form.statics.map Text.Quoted.literal)).toList ::
    (bracketed form.dynamics).toList ::
      form.extraArgs.map String.toList

/- The characters of a call. -/
theorem templateCall_toList
    (call : TemplateCall String) :
    (templateCall call).toList =
      headChars call ++
        '(' ::
          ([',', ' '].intercalate (argumentChars call.form) ++
            [')']) := by
  cases hConstruct : call.construct with
  | false =>
      simp [templateCall, headChars, argumentChars, hConstruct,
        String.toList_append, String.toList_intercalate]
  | true =>
      simp [templateCall, headChars, argumentChars, hConstruct,
        String.toList_append, String.toList_intercalate]

------------------------------------------------------------
-- Arguments
------------------------------------------------------------

/- A literal is a delimited token, whatever its text. -/
theorem literal_delimited
    (text : String) :
    Text.isDelimited (Text.Quoted.literal text) = true := by
  rw [Text.isDelimited, Text.Quoted.literal,
    String.toList_ofList, Text.isDelimitedChars_iff]
  constructor
  · exact List.cons_ne_nil _ _
  · exact Text.Scan.isWhole_literalChars text.toList

theorem toList_delimited
    {items : List String}
    (hItems : ∀ item ∈ items, Text.isDelimited item = true) :
    ∀ item ∈ items.map String.toList,
      Text.isDelimitedChars item = true := by
  intro item hMem
  rcases List.mem_map.mp hMem with ⟨token, hToken, rfl⟩
  exact hItems token hToken

/- A list of delimited tokens is a delimited token. -/
theorem bracketed_delimited
    {items : List String}
    (hItems : ∀ item ∈ items, Text.isDelimited item = true) :
    Text.isDelimited (bracketed items) = true := by
  have hNothing : ∀ c ∈ [], Text.Scan.isPlain c = true :=
    List.forall_mem_nil _
  rw [Text.isDelimited, bracketed_toList]
  exact
    Text.isDelimitedChars_bracketed rfl hNothing
      (toList_delimited hItems)

/- The items of a list of delimited tokens are read back. -/
theorem readArray_bracketed
    {items : List String}
    (hItems : ∀ item ∈ items, Text.isDelimited item = true) :
    readArray (bracketed items).toList =
      some (items.map String.toList) := by
  rw [readArray, bracketed_toList, Text.unwrap_bracketed,
    Option.bind_some,
    Text.readItems_intercalate (toList_delimited hItems)]

/- A literal is read as its text. -/
theorem readLiteral_literal
    (text : String) :
    readLiteral (Text.Quoted.literal text).toList =
      some text := by
  have hRead := Text.Quoted.read_literalChars text.toList []
  rw [List.append_nil] at hRead
  rw [readLiteral, Text.Quoted.literal, String.toList_ofList,
    hRead]
  simp only [String.ofList_toList]

theorem mapM_readLiteral
    (texts : List String) :
    ((texts.map Text.Quoted.literal).map String.toList).mapM
        readLiteral =
      some texts := by
  induction texts with
  | nil =>
      rfl
  | cons text texts ih =>
      rw [List.map_cons, List.map_cons, List.mapM_cons,
        readLiteral_literal, ih]
      rfl

theorem statics_delimited
    (statics : List String) :
    ∀ token ∈ statics.map Text.Quoted.literal,
      Text.isDelimited token = true := by
  intro token hMem
  rcases List.mem_map.mp hMem with ⟨text, _, rfl⟩
  exact literal_delimited text

/- The arguments of a call are read as its template. -/
theorem readForm_argumentChars
    {form : TemplateForm String}
    (hDynamics :
      ∀ token ∈ form.dynamics, Text.isDelimited token = true) :
    readForm (argumentChars form) = some form := by
  have hStatics := statics_delimited form.statics
  rw [argumentChars, readForm, readArray_bracketed hStatics,
    readArray_bracketed hDynamics]
  simp only [Option.bind_eq_bind, Option.bind_some,
    mapM_readLiteral]
  simp

/- The arguments of a call are delimited tokens. -/
theorem argumentChars_delimited
    {form : TemplateForm String}
    (hDynamics :
      ∀ token ∈ form.dynamics, Text.isDelimited token = true)
    (hExtra :
      ∀ token ∈ form.extraArgs, Text.isDelimited token = true) :
    ∀ argument ∈ argumentChars form,
      Text.isDelimitedChars argument = true := by
  intro argument hMem
  rcases List.mem_cons.mp hMem with rfl | hMem
  · exact bracketed_delimited (statics_delimited form.statics)
  rcases List.mem_cons.mp hMem with rfl | hMem
  · exact bracketed_delimited hDynamics
  · exact toList_delimited hExtra argument hMem

------------------------------------------------------------
-- Calls
------------------------------------------------------------

/- What is called is read back if it has no space. -/
theorem readHead_append
    (construct : Bool)
    {callee : String}
    (hSpace : ' ' ∉ callee.toList) :
    readHead
        ((if construct then ['n', 'e', 'w', ' '] else []) ++
          callee.toList) =
      (construct, callee) := by
  cases construct with
  | true =>
      simp [readHead]
  | false =>
      -- A text without a space is not taken for `new`.
      simp only [Bool.false_eq_true, if_false, List.nil_append]
      unfold readHead
      split
      · rename_i hChars
        rw [hChars] at hSpace
        simp at hSpace
      · rw [String.ofList_toList]

theorem readHead_headChars
    {call : TemplateCall String}
    (hCallee : isIdentifier call.callee = true) :
    readHead (headChars call) = (call.construct, call.callee) := by
  apply readHead_append
  exact isIdentifier_not_mem hCallee (by decide)

/- The operator in front of a call has plain characters only. -/
theorem head_plain
    (construct : Bool)
    {callee : List Char}
    (hCallee : ∀ c ∈ callee, Text.Scan.isPlain c = true) :
    ∀ c ∈ (if construct then ['n', 'e', 'w', ' '] else []) ++
        callee,
      Text.Scan.isPlain c = true := by
  intro c hMem
  rcases List.mem_append.mp hMem with hNew | hName
  · have hWord :
        ['n', 'e', 'w', ' '].all Text.Scan.isPlain = true := by
      decide
    split at hNew
    · exact List.all_eq_true.mp hWord c hNew
    · cases hNew
  · exact hCallee c hName

theorem headChars_plain
    {call : TemplateCall String}
    (hCallee : isIdentifier call.callee = true) :
    ∀ c ∈ headChars call, Text.Scan.isPlain c = true :=
  head_plain call.construct (isIdentifier_plain hCallee)

/- No bracket stands among plain characters. -/
theorem plain_ne_bracket
    {cs : List Char}
    (hPlain : ∀ c ∈ cs, Text.Scan.isPlain c = true) :
    ∀ c ∈ cs, (c != '(') = true := by
  intro c hMem
  rw [bne_iff_ne]
  intro hEq
  have hBracket := hPlain c hMem
  rw [hEq] at hBracket
  revert hBracket
  decide

/- The text of a call is read as the call. -/
theorem readTemplateCall_templateCall
    {call : TemplateCall String}
    (hCallee : isIdentifier call.callee = true)
    (hDynamics :
      ∀ token ∈ call.form.dynamics,
        Text.isDelimited token = true)
    (hExtra :
      ∀ token ∈ call.form.extraArgs,
        Text.isDelimited token = true) :
    readTemplateCall (templateCall call) = some call := by
  have hHead := plain_ne_bracket (headChars_plain hCallee)
  have hBracket : ('(' != '(') = false := by decide
  have hItems :=
    Text.readItems_intercalate
      (argumentChars_delimited hDynamics hExtra)
  simp only [readTemplateCall, templateCall_toList,
    List.takeWhile_append_of_pos hHead,
    List.dropWhile_append_of_pos hHead, List.takeWhile_cons,
    List.dropWhile_cons, hBracket, Bool.false_eq_true, if_false,
    List.append_nil, readHead_headChars hCallee,
    Text.unwrap_bracketed, Option.bind_eq_bind,
    Option.bind_some, hItems, readForm_argumentChars hDynamics]
  rfl

/- The text of a call is a delimited token. -/
theorem isDelimited_templateCall
    {call : TemplateCall String}
    (hCallee : isIdentifier call.callee = true)
    (hDynamics :
      ∀ token ∈ call.form.dynamics,
        Text.isDelimited token = true)
    (hExtra :
      ∀ token ∈ call.form.extraArgs,
        Text.isDelimited token = true) :
    Text.isDelimited (templateCall call) = true := by
  rw [Text.isDelimited, templateCall_toList]
  exact
    Text.isDelimitedChars_bracketed rfl
      (headChars_plain hCallee)
      (argumentChars_delimited hDynamics hExtra)

------------------------------------------------------------
-- Nested Calls
------------------------------------------------------------

/-
  The tokens that calls carry: delimited ones, and calls that
  carry such tokens in turn, to any depth.
-/
inductive Nested : String → Prop where
  | token
      {text : String}
      (hText : Text.isDelimited text = true) :
      Nested text
  | call
      {call : TemplateCall String}
      (hCallee : isIdentifier call.callee = true)
      (hDynamics : ∀ token ∈ call.form.dynamics, Nested token)
      (hExtra : ∀ token ∈ call.form.extraArgs, Nested token) :
      Nested (templateCall call)

/- Calls within calls are delimited tokens. -/
theorem Nested.isDelimited
    {text : String}
    (hNested : Nested text) :
    Text.isDelimited text = true := by
  induction hNested with
  | token hText =>
      exact hText
  | call hCallee _ _ hDynamics hExtra =>
      exact isDelimited_templateCall hCallee hDynamics hExtra

/-
  A call to an identifier can be read back from its text:
  whether it constructs, what it calls, its static texts, and
  the tokens it carries, which may be calls themselves.  Its
  text is again a delimited token.
-/
theorem nested_templateCall_reads_back
    (call : TemplateCall String)
    (hCallee : isIdentifier call.callee = true)
    (hDynamics : ∀ token ∈ call.form.dynamics, Nested token)
    (hExtra : ∀ token ∈ call.form.extraArgs, Nested token) :
    readTemplateCall (templateCall call) = some call ∧
      Text.isDelimited (templateCall call) = true := by
  have hDynamic :
      ∀ token ∈ call.form.dynamics,
        Text.isDelimited token = true := by
    intro token hMem
    exact (hDynamics token hMem).isDelimited
  have hArgument :
      ∀ token ∈ call.form.extraArgs,
        Text.isDelimited token = true := by
    intro token hMem
    exact (hExtra token hMem).isDelimited
  constructor
  · exact readTemplateCall_templateCall hCallee hDynamic hArgument
  · exact isDelimited_templateCall hCallee hDynamic hArgument

/- A call whose texts have quotes, brackets and commas. -/
def innerCall : TemplateCall String where
  callee := "$tpl"
  construct := false
  form := {
    statics := ["<a title=\"[x, y)\">", "\\\",\n", ""]
    dynamics := ["f(x, \")\")"]
    extraArgs := []
  }

/- A call that constructs and carries the former one twice. -/
def outerCall : TemplateCall String where
  callee := "Template"
  construct := true
  form := {
    statics := ["<p>", ", ", "</p>"]
    dynamics := [templateCall innerCall, "[a, b]"]
    extraArgs := [templateCall innerCall, "\x7b k: 1, l: 2 \x7d"]
  }

theorem nested_templateCall_reads_back_twice :
    isIdentifier outerCall.callee = true ∧
      Nested (templateCall innerCall) ∧
      templateCall innerCall =
        "$tpl([\"<a title=\\\"[x, y)\\\">\", "
          ++ "\"\\\\\\\",\\n\", \"\"], [f(x, \")\")])" ∧
      readTemplateCall (templateCall outerCall) = some outerCall ∧
      Text.isDelimited (templateCall outerCall) = true := by
  have hInner : Nested (templateCall innerCall) := by
    apply Nested.call
    · decide +kernel
    · intro token hMem
      apply Nested.token
      revert token
      decide +kernel
    · intro token hMem
      cases hMem
  have hCallee : isIdentifier outerCall.callee = true := by
    decide +kernel
  refine ⟨hCallee, hInner, by decide +kernel, ?_⟩
  apply nested_templateCall_reads_back outerCall hCallee
  · intro token hMem
    rcases List.mem_cons.mp hMem with rfl | hMem
    · exact hInner
    · apply Nested.token
      rw [List.mem_singleton.mp hMem]
      decide +kernel
  · intro token hMem
    rcases List.mem_cons.mp hMem with rfl | hMem
    · exact hInner
    · apply Nested.token
      rw [List.mem_singleton.mp hMem]
      decide +kernel

end Emission

end MarkupLowering
