import MarkupLowering.Proofs.Template.Serialisation
import MarkupLowering.Proofs.Text.CodeRanges
import MarkupLowering.Text.Blank

/-
  This file shows that the names of elements that are lowered
  are clean: a component is called under a path of words, and
  the name in an opening tag has no blank and no sign of
  markup.

  A name without a flaw can be told from its text.  It is made
  of words, and a dot or a colon between them is part of no
  word.  So names that differ have texts that differ.

  Key definitions include:
    * `IsPath`
    * `isMarkupBreak`
    * `TagName.ofText`

  Key theorems include:
    * `not_isMarkupBreak`
    * `TagName.ofText_text`
    * `TagName.text_injective`
    * `TagName.text_unbroken`
    * `TagName.isPath_text`
    * `Element.lower_keeps_names_clean`
-/

namespace MarkupLowering

------------------------------------------------------------
-- Words
------------------------------------------------------------

theorem isWordPart_of_isWordStart
    {c : Char}
    (hStart : isWordStart c = true) :
    isWordPart c = true := by
  unfold isWordStart at hStart
  unfold isWordPart
  simp only [Bool.or_eq_true] at hStart ⊢
  rcases hStart with (hLetter | hUnderscore) | hDollar
  · exact Or.inl (Or.inl (Or.inl hLetter))
  · exact Or.inl (Or.inr hUnderscore)
  · exact Or.inr hDollar

/-
  A word has characters, all of which may continue it.  What
  may begin a word may also continue it, so this holds of
  words with any class of further characters.
-/
theorem parts_of_word
    {part : Char → Bool}
    (hPart : ∀ c, isWordStart c = true → part c = true)
    {isChars : List Char → Bool}
    (hNil : isChars [] = false)
    (hCons :
      ∀ first rest,
        isChars (first :: rest) =
          (isWordStart first && rest.all part))
    {chars : List Char}
    (hWord : isChars chars = true) :
    chars ≠ [] ∧ ∀ c ∈ chars, part c = true := by
  cases chars with
  | nil =>
      rw [hNil] at hWord
      cases hWord
  | cons first rest =>
      rw [hCons, Bool.and_eq_true, List.all_eq_true] at hWord
      rcases hWord with ⟨hFirst, hRest⟩
      refine ⟨List.cons_ne_nil first rest, ?_⟩
      exact List.forall_mem_cons.mpr ⟨hPart first hFirst, hRest⟩

theorem isWord_parts
    {text : String}
    (hWord : isWord text = true) :
    text.toList ≠ [] ∧
      ∀ c ∈ text.toList, isWordPart c = true :=
  parts_of_word (fun _ => isWordPart_of_isWordStart) rfl
    (fun _ _ => rfl) hWord

theorem isHyphenWord_parts
    {text : String}
    (hWord : isHyphenWord text = true) :
    text.toList ≠ [] ∧
      ∀ c ∈ text.toList, isHyphenWordPart c = true := by
  apply parts_of_word _ rfl (fun _ _ => rfl) hWord
  intro c hStart
  rw [isHyphenWordPart, isWordPart_of_isWordStart hStart,
    Bool.true_or]

/- A word of code is a word of markup. -/
theorem isHyphenWord_of_isWord
    {text : String}
    (hWord : isWord text = true) :
    isHyphenWord text = true := by
  unfold isWord at hWord
  unfold isHyphenWord
  cases hChars : text.toList with
  | nil =>
      rw [hChars] at hWord
      cases hWord
  | cons c rest =>
      rw [hChars, isWordChars, Bool.and_eq_true,
        List.all_eq_true] at hWord
      rw [isHyphenWordChars, Bool.and_eq_true,
        List.all_eq_true]
      refine ⟨hWord.1, ?_⟩
      intro part hPart
      rw [isHyphenWordPart, hWord.2 part hPart, Bool.true_or]

/- The text is made of names with a dot between each two. -/
def IsPath
    (isName : String → Bool)
    (text : String) : Prop :=
  ∃ segments,
    segments ≠ [] ∧
      (∀ segment ∈ segments, isName segment = true) ∧
      text = ".".intercalate segments

theorem mem_intercalate
    {separator c : Char}
    {items : List (List Char)}
    (hMem : c ∈ [separator].intercalate items) :
    c = separator ∨ ∃ item ∈ items, c ∈ item := by
  induction items with
  | nil => simp at hMem
  | cons first rest ih =>
      by_cases hLast : rest = []
      · rw [hLast, List.intercalate_singleton] at hMem
        exact Or.inr ⟨first, List.mem_cons_self, hMem⟩
      · rw [List.intercalate_cons_of_ne_nil hLast,
          List.append_assoc, List.mem_append, List.mem_append,
          List.mem_singleton] at hMem
        rcases hMem with hFirst | hSeparator | hRest
        · exact Or.inr ⟨first, List.mem_cons_self, hFirst⟩
        · exact Or.inl hSeparator
        · rcases ih hRest with hSeparator | ⟨item, hItem, hChar⟩
          · exact Or.inl hSeparator
          · exact
              Or.inr
                ⟨item, List.mem_cons_of_mem first hItem, hChar⟩

/- A character of a path is a dot, or it stands in a name. -/
theorem IsPath.mem_or
    {isName : String → Bool}
    {text : String}
    (hPath : IsPath isName text)
    {c : Char}
    (hMem : c ∈ text.toList) :
    c = '.' ∨
      ∃ segment,
        isName segment = true ∧ c ∈ segment.toList := by
  rcases hPath with ⟨segments, _, hNames, hText⟩
  rw [hText, String.toList_intercalate] at hMem
  rcases mem_intercalate hMem with hDot | ⟨item, hItem, hChar⟩
  · exact Or.inl hDot
  · rcases List.mem_map.mp hItem with ⟨segment, hSegment, rfl⟩
    exact Or.inr ⟨segment, hNames segment hSegment, hChar⟩

/- What is neither a dot nor part of a word is in no path. -/
theorem IsPath.not_mem_of_isWord
    {text : String}
    (hPath : IsPath isWord text)
    {c : Char}
    (hChar : (c != '.' && !isWordPart c) = true) :
    c ∉ text.toList := by
  rw [Bool.and_eq_true, bne_iff_ne, Bool.not_eq_true'] at hChar
  intro hMem
  rcases hPath.mem_or hMem with hDot | ⟨segment, hWord, hPart⟩
  · exact hChar.1 hDot
  · rw [(isWord_parts hWord).2 c hPart] at hChar
    cases hChar.2

------------------------------------------------------------
-- Signs
------------------------------------------------------------

/- The signs that structure markup. -/
def markupSigns : List Char :=
  ['<', '>', '/', '=', '&', '\x27', '"']

/- The character ends a name in markup: a blank or a sign. -/
def isMarkupBreak (c : Char) : Bool :=
  Text.isWhite c || markupSigns.contains c

/- The character may stand in the text of a name. -/
def isTagChar (c : Char) : Bool :=
  isHyphenWordPart c || c == '.' || c == ':'

theorem markupSigns_all :
    markupSigns.all (fun c => !isTagChar c) = true := by
  decide +kernel

theorem whiteRanges_all :
    Text.whiteRanges.codes.all
        (fun code => !isTagChar (Char.ofNat code)) =
      true := by
  decide +kernel

/- What may stand in a name does not break it. -/
theorem not_isMarkupBreak
    {c : Char}
    (hChar : isTagChar c = true) :
    isMarkupBreak c = false := by
  have hWhite : Text.isWhite c = false := by
    rw [Bool.eq_false_iff]
    intro hBlank
    unfold Text.isWhite at hBlank
    have hNone :=
      Text.CodeRanges.all_of_covers (fun c => !isTagChar c)
        whiteRanges_all hBlank
    simp [hChar] at hNone
  have hSign : markupSigns.contains c = false := by
    rw [Bool.eq_false_iff]
    intro hSign
    have hNone :=
      List.all_eq_true.mp markupSigns_all c
        (List.contains_iff_mem.mp hSign)
    simp [hChar] at hNone
  rw [isMarkupBreak, hWhite, hSign]
  rfl

theorem hyphenWord_not_mem
    {text : String}
    (hWord : isHyphenWord text = true)
    {c : Char}
    (hChar : c = '.' ∨ c = ':') :
    c ∉ text.toList := by
  have hNone :
      ['.', ':'].all (fun c => !isHyphenWordPart c) = true := by
    decide +kernel
  intro hMem
  have hPart := (isHyphenWord_parts hWord).2 c hMem
  have hNot := List.all_eq_true.mp hNone c (by simpa using hChar)
  simp [hPart] at hNot

namespace TagName

------------------------------------------------------------
-- Names without a Flaw
------------------------------------------------------------

theorem flaw?_identifier
    (name : String) :
    (identifier name).flaw? = none ↔
      isHyphenWord name = true ∧
        ((identifier name).isComponent = true →
          isWord name = true) := by
  by_cases hWord : isHyphenWord name = true
  · simp [flaw?, hWord]
  · simp [flaw?, hWord]

theorem flaw?_member
    (segments : List String) :
    (member segments).flaw? = none ↔
      2 ≤ segments.length ∧
        ∀ segment ∈ segments, isWord segment = true := by
  by_cases hMany : segments.length < 2
  · have hFew : ¬ 2 ≤ segments.length := by omega
    simp [flaw?, hMany, hFew]
  · have hTwo : 2 ≤ segments.length := by omega
    simp [flaw?, hMany, hTwo]

theorem flaw?_namespaced
    (space name : String) :
    (namespaced space name).flaw? = none ↔
      isHyphenWord space = true ∧ isHyphenWord name = true ∧
        (namespaced space name).isComponent = false := by
  by_cases hSpace : isHyphenWord space = true
  · by_cases hName : isHyphenWord name = true
    · simp [flaw?, hSpace, hName]
    · simp [flaw?, hName]
  · simp [flaw?, hSpace]

/- The segments of a name are a path. -/
theorem isPath_member
    {segments : List String}
    (hFlaw : (member segments).flaw? = none) :
    IsPath isWord (member segments).text := by
  rcases (flaw?_member segments).mp hFlaw with
    ⟨hMany, hWords⟩
  refine ⟨segments, ?_, hWords, rfl⟩
  intro hNone
  rw [hNone] at hMany
  cases hMany

/- All characters of a name are of words, or stand between them. -/
theorem text_isTagChar
    {tag : TagName}
    (hFlaw : tag.flaw? = none) :
    ∀ c ∈ tag.text.toList, isTagChar c = true := by
  have hWord :
      ∀ text : String,
        isHyphenWord text = true →
          ∀ c ∈ text.toList, isTagChar c = true := by
    intro text hText c hMem
    simp [isTagChar, (isHyphenWord_parts hText).2 c hMem]
  intro c hMem
  cases tag with
  | fragment => simp [text] at hMem
  | identifier name =>
      have hName := ((flaw?_identifier name).mp hFlaw).1
      exact hWord name hName c hMem
  | member segments =>
      rcases (isPath_member hFlaw).mem_or hMem with
        hDot | ⟨segment, hSegment, hChar⟩
      · simp [isTagChar, hDot]
      · exact
          hWord segment (isHyphenWord_of_isWord hSegment) c hChar
  | namespaced space name =>
      rcases (flaw?_namespaced space name).mp hFlaw with
        ⟨hSpace, hName, _⟩
      simp only [text, String.toList_append, List.mem_append]
        at hMem
      rcases hMem with (hLeft | hColon) | hRight
      · exact hWord space hSpace c hLeft
      · have hEq : c = ':' := by simpa using hColon
        simp [isTagChar, hEq]
      · exact hWord name hName c hRight

/- No blank and no sign of markup stands in a name. -/
theorem text_unbroken
    {tag : TagName}
    (hFlaw : tag.flaw? = none) :
    ∀ c ∈ tag.text.toList, isMarkupBreak c = false := by
  intro c hMem
  exact not_isMarkupBreak (text_isTagChar hFlaw c hMem)

/- A component is referred to by a path of words. -/
theorem isPath_text
    {tag : TagName}
    (hFlaw : tag.flaw? = none)
    (hComponent : tag.isComponent = true) :
    IsPath isWord tag.text := by
  cases tag with
  | fragment => cases hComponent
  | identifier name =>
      have hWord :=
        ((flaw?_identifier name).mp hFlaw).2 hComponent
      refine ⟨[name], List.cons_ne_nil name [], ?_, ?_⟩
      · intro segment hMem
        rw [List.mem_singleton.mp hMem]
        exact hWord
      · simp [text]
  | member segments => exact isPath_member hFlaw
  | namespaced space name =>
      rcases (flaw?_namespaced space name).mp hFlaw with
        ⟨_, _, hPlain⟩
      rw [hPlain] at hComponent
      cases hComponent

------------------------------------------------------------
-- Texts of Names
------------------------------------------------------------

/-
  The name with the text.  A colon tells the space from the
  name, and dots tell the segments apart.
-/
def ofText (text : String) : TagName :=
  match text.toList.splitOn ':' with
  | [space, name] =>
      namespaced (String.ofList space) (String.ofList name)
  | _ =>
      match text.toList.splitOn '.' with
      | [name] =>
          if name.isEmpty then fragment else identifier text
      | segments => member (segments.map String.ofList)

/- The dots of a member name stand between its segments. -/
theorem splitOn_text_member
    {segments : List String}
    (hFlaw : (member segments).flaw? = none) :
    (member segments).text.toList.splitOn '.' =
      segments.map String.toList := by
  rcases (flaw?_member segments).mp hFlaw with ⟨hMany, hWords⟩
  have hDots :
      ∀ item ∈ segments.map String.toList, '.' ∉ item := by
    intro item hMem
    rcases List.mem_map.mp hMem with ⟨segment, hSegment, rfl⟩
    exact
      hyphenWord_not_mem
        (isHyphenWord_of_isWord (hWords segment hSegment))
        (Or.inl rfl)
  have hSome : segments.map String.toList ≠ [] := by
    intro hNone
    rw [List.map_eq_nil_iff.mp hNone] at hMany
    cases hMany
  rw [text, String.toList_intercalate]
  exact List.splitOn_intercalate '.' hDots hSome

/- The only colon of a name with a space stands behind it. -/
theorem splitOn_text_namespaced
    {space name : String}
    (hFlaw : (namespaced space name).flaw? = none) :
    (namespaced space name).text.toList.splitOn ':' =
      [space.toList, name.toList] := by
  rcases (flaw?_namespaced space name).mp hFlaw with
    ⟨hSpace, hName, _⟩
  have hLeft := hyphenWord_not_mem hSpace (Or.inr rfl)
  have hRight := hyphenWord_not_mem hName (Or.inr rfl)
  have hText :
      (namespaced space name).text.toList =
        space.toList ++ ':' :: name.toList := by
    simp [text]
  rw [hText, List.splitOn_append_cons_self_of_not_mem hLeft,
    List.splitOn_eq_singleton hRight]

/- A name without a flaw is read back from its text. -/
theorem ofText_text
    {tag : TagName}
    (hFlaw : tag.flaw? = none) :
    ofText tag.text = tag := by
  cases tag with
  | fragment => decide
  | identifier name =>
      have hName := ((flaw?_identifier name).mp hFlaw).1
      have hColon := hyphenWord_not_mem hName (Or.inr rfl)
      have hDot := hyphenWord_not_mem hName (Or.inl rfl)
      have hSome := (isHyphenWord_parts hName).1
      simp [ofText, text, List.splitOn_eq_singleton hColon,
        List.splitOn_eq_singleton hDot, hSome]
  | member segments =>
      have hMany := ((flaw?_member segments).mp hFlaw).1
      have hColon : ':' ∉ (member segments).text.toList :=
        (isPath_member hFlaw).not_mem_of_isWord
          (by decide +kernel)
      rw [ofText, List.splitOn_eq_singleton hColon,
        splitOn_text_member hFlaw]
      rcases segments with _ | ⟨first, _ | ⟨second, rest⟩⟩
      · simp at hMany
      · simp at hMany
      · simp
  | namespaced space name =>
      rw [ofText, splitOn_text_namespaced hFlaw]
      simp

/- Names without a flaw that have one text are the same. -/
theorem text_injective
    {first second : TagName}
    (hFirst : first.flaw? = none)
    (hSecond : second.flaw? = none)
    (hText : first.text = second.text) :
    first = second := by
  rw [← ofText_text hFirst, ← ofText_text hSecond, hText]

/- Only the name of a fragment has no text. -/
theorem text_ne_empty
    {tag : TagName}
    (hFlaw : tag.flaw? = none)
    (hTag : tag ≠ fragment) :
    tag.text ≠ "" := by
  intro hText
  have hFragment : fragment.flaw? = none := rfl
  exact hTag (text_injective hFlaw hFragment hText)

end TagName

namespace Element

variable {T : Type}

------------------------------------------------------------
-- Lowered Elements
------------------------------------------------------------

/- An element whose name has a flaw is not lowered. -/
theorem flaw?_of_lower
    {config : Config T}
    {element : Element T}
    {scope : Scope}
    {lowered : Lowered T}
    (hLower : element.lower config scope = .ok lowered) :
    element.tag.flaw? = none := by
  unfold lower lowerUnplaced at hLower
  cases hFlaw : element.tag.flaw? with
  | none => rfl
  | some flaw =>
      rw [hFlaw] at hLower
      cases hLower

/- A component is used under its name. -/
theorem lower_eq_component
    {config : Config T}
    {element : Element T}
    {scope : Scope}
    {lowered : Lowered T}
    (hTag : element.tag.isComponent = true)
    (hLower : element.lower config scope = .ok lowered) :
    element.tag.flaw? = none ∧
      ∃ props style,
        lowered = .component ⟨element.tag.text, props, style⟩ := by
  have hFlaw := flaw?_of_lower hLower
  refine ⟨hFlaw, ?_⟩
  unfold lower lowerUnplaced lowerComponent at hLower
  simp only [hFlaw, hTag, if_true] at hLower
  cases hProps : properties element.attributes with
  | error error =>
      simp only [hProps] at hLower
      cases hLower
  | ok props =>
      cases hStyle : styleIn scope with
      | none =>
          simp only [hProps, hStyle] at hLower
          cases hLower
      | some style =>
          simp only [hProps, hStyle] at hLower
          cases hLower
          exact ⟨props, style, rfl⟩

/- What becomes the use of a component is a component. -/
theorem lower_component
    {config : Config T}
    {element : Element T}
    {scope : Scope}
    {call : ComponentCall T}
    (hLower : element.lower config scope = .ok (.component call)) :
    element.tag.isComponent = true ∧
      call.tag = element.tag.text := by
  by_cases hTag : element.tag.isComponent = true
  · rcases lower_eq_component hTag hLower with
      ⟨_, props, style, hCall⟩
    cases hCall
    exact ⟨hTag, rfl⟩
  · rw [Bool.not_eq_true] at hTag
    rcases lower_eq_template hTag hLower with ⟨_, _, hCall⟩
    cases hCall

/- What becomes a template is written out, its name first. -/
theorem lower_template
    {config : Config T}
    {element : Element T}
    {scope : Scope}
    {call : TemplateCall T}
    (hLower : element.lower config scope = .ok (.template call)) :
    element.tag.isComponent = false ∧
      interleave call.form.statics call.form.dynamics =
        element.symbols config := by
  by_cases hTag : element.tag.isComponent = true
  · rcases lower_eq_component hTag hLower with
      ⟨_, props, style, hCall⟩
    cases hCall
  · rw [Bool.not_eq_true] at hTag
    rcases lower_eq_template hTag hLower with
      ⟨form, hForm, hCall⟩
    cases hCall
    exact ⟨hTag, (templateForm_stream hForm).2⟩

/-
  The name of an element that is lowered is clean.  A component
  is called under a path of words.  A template that is not that
  of a fragment begins with a name, which is not empty and has
  no blank and no sign of markup.  Different names are written
  differently.
-/
theorem lower_keeps_names_clean
    (config : Config T)
    (element : Element T)
    (scope : Scope) :
    (∀ call,
      element.lower config scope = .ok (.component call) →
        call.tag = element.tag.text ∧
          IsPath isWord call.tag ∧
          '-' ∉ call.tag.toList ∧ ':' ∉ call.tag.toList) ∧
      (∀ call,
        element.lower config scope = .ok (.template call) →
        element.tag ≠ .fragment →
          textSymbols ("<" ++ element.tag.text) <+:
              interleave call.form.statics call.form.dynamics ∧
            element.tag.text ≠ "" ∧
            ∀ c ∈ element.tag.text.toList,
              isMarkupBreak c = false) ∧
      ∀ first second : TagName,
        first.flaw? = none →
        second.flaw? = none →
        first ≠ second →
          first.text ≠ second.text := by
  refine ⟨?_, ?_, ?_⟩
  · intro call hLower
    have hFlaw := flaw?_of_lower hLower
    rcases lower_component hLower with ⟨hTag, hText⟩
    have hPath := TagName.isPath_text hFlaw hTag
    rw [hText]
    exact
      ⟨rfl, hPath, hPath.not_mem_of_isWord (by decide +kernel),
        hPath.not_mem_of_isWord (by decide +kernel)⟩
  · intro call hLower hTag
    have hFlaw := flaw?_of_lower hLower
    refine
      ⟨?_, TagName.text_ne_empty hFlaw hTag,
        TagName.text_unbroken hFlaw⟩
    rw [(lower_template hLower).2, symbols, openingSymbols,
      if_neg hTag]
    simp only [List.append_assoc]
    exact List.prefix_append _ _
  · intro first second hFirst hSecond hNe hText
    exact hNe (TagName.text_injective hFirst hSecond hText)

/- A component of two segments, in a function. -/
def menu : Element Nat where
  tag := .member ["Ui", "Menu"]
  attributes := []
  children := []
  hasClosingTag := false
  span := ⟨0, 9⟩

/- An element with a colon in its name. -/
def shape : Element Nat :=
  { menu with tag := .namespaced "svg" "rect-2" }

theorem lower_keeps_names_clean_dotted :
    menu.lower ⟨"rt", "T", "T", false, true, none, none⟩
          (.within (.ofFunction ⟨none, false⟩)) =
        .ok (.component ⟨"Ui.Menu", [], .invoke⟩) ∧
      IsPath isWord "Ui.Menu" ∧
      shape.lower ⟨"rt", "T", "T", false, true, none, none⟩
          .unknown =
        .ok (.template ⟨"T", true, ⟨["<svg:rect-2 />"], [], []⟩⟩) ∧
      (∀ c ∈ "svg:rect-2".toList, isMarkupBreak c = false) ∧
      menu.tag.text ≠ shape.tag.text := by
  have hMenu :
      menu.lower ⟨"rt", "T", "T", false, true, none, none⟩
          (.within (.ofFunction ⟨none, false⟩)) =
        .ok (.component ⟨"Ui.Menu", [], .invoke⟩) := by
    rfl
  have hShape :
      shape.lower ⟨"rt", "T", "T", false, true, none, none⟩
          .unknown =
        .ok (.template ⟨"T", true, ⟨["<svg:rect-2 />"], [], []⟩⟩) := by
    rfl
  rcases lower_keeps_names_clean
      ⟨"rt", "T", "T", false, true, none, none⟩ menu
      (.within (.ofFunction ⟨none, false⟩)) with
    ⟨hComponent, _, hTexts⟩
  rcases lower_keeps_names_clean
      ⟨"rt", "T", "T", false, true, none, none⟩ shape
      .unknown with
    ⟨_, hTemplate, _⟩
  refine
    ⟨hMenu, (hComponent _ hMenu).2.1, hShape,
      (hTemplate _ hShape (by decide)).2.2, ?_⟩
  exact
    hTexts menu.tag shape.tag (flaw?_of_lower hMenu)
      (flaw?_of_lower hShape) (by decide)

end Element

end MarkupLowering
