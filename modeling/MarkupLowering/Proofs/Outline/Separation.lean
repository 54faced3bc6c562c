import MarkupLowering.Proofs.Outline.Adequacy
import MarkupLowering.Proofs.Template.TagNames
import MarkupLowering.Proofs.Tree.Refinement
import MarkupLowering.Transform

/-
  This file says when what an element becomes runs into the
  word that stands in front of the element.

  Markup begins with a sign and may follow a word directly.
  What it becomes begins with a word itself: the operator
  `new`, a component, or the name of the import.  No text is
  put in between.

  Key definitions include:
    * `beginsWord`
    * `Text.followsWord`
    * `Separated`

  Key theorems include:
    * `TagName.beginsWord_text`
    * `Element.beginsWord_lowered`
    * `Outline.exists_emitted`
    * `transform_separates_iff`
-/

namespace MarkupLowering

------------------------------------------------------------
-- Words
------------------------------------------------------------

/- The text begins with a character of a word. -/
def beginsWord (text : String) : Bool :=
  text.toList.head?.any isWordPart

/- A character of a word stands right before the offset. -/
def Text.followsWord
    (source : List Char)
    (offset : Nat) : Bool :=
  (splitBytes source offset).any fun parts =>
    parts.1.getLast?.any isWordPart

/- A text at an offset does not run into a word before it. -/
def Separated
    (source : List Char)
    (offset : Nat)
    (text : String) : Prop :=
  Text.followsWord source offset = true →
    beginsWord text = false

theorem beginsWord_append
    {first : String}
    (hFirst : beginsWord first = true)
    (second : String) :
    beginsWord (first ++ second) = true := by
  unfold beginsWord at hFirst ⊢
  rw [String.toList_append]
  cases hChars : first.toList with
  | nil =>
      rw [hChars] at hFirst
      cases hFirst
  | cons c rest =>
      rw [hChars] at hFirst
      exact hFirst

/- A bracket ends a word, also one without characters. -/
theorem beginsWord_append_bracket
    (first rest : String) :
    beginsWord (first ++ "(" ++ rest) = beginsWord first := by
  have hBracket : isWordPart '(' = false := by decide +kernel
  have hHead : ("(" ++ rest).toList = '(' :: rest.toList := by
    rw [String.toList_append]
    rfl
  unfold beginsWord
  rw [String.append_assoc, String.toList_append, hHead]
  cases first.toList with
  | nil => exact hBracket
  | cons c others => rfl

theorem beginsWord_of_isWord
    {text : String}
    (hWord : isWord text = true) :
    beginsWord text = true := by
  rcases isWord_parts hWord with ⟨hSome, hParts⟩
  unfold beginsWord
  cases hChars : text.toList with
  | nil => exact absurd hChars hSome
  | cons c rest =>
      rw [hChars] at hParts
      exact hParts c List.mem_cons_self

------------------------------------------------------------
-- Elements
------------------------------------------------------------

/- The name of a component begins with a word. -/
theorem TagName.beginsWord_text
    {tag : TagName}
    (hComponent : tag.isComponent = true)
    (hFlaw : tag.flaw? = none) :
    beginsWord tag.text = true := by
  rcases isPath_text hFlaw hComponent with
    ⟨segments, hSome, hWords, hText⟩
  rw [hText]
  cases segments with
  | nil => exact absurd rfl hSome
  | cons first rest =>
      have hFirst :=
        beginsWord_of_isWord (hWords first List.mem_cons_self)
      by_cases hLast : rest = []
      · rw [hLast, String.intercalate_singleton]
        exact hFirst
      · rw [String.intercalate_cons_of_ne_nil hLast,
          String.append_assoc]
        exact beginsWord_append hFirst _

namespace Element

variable {T : Type}

/-
  An element becomes text that begins with a word, unless it
  becomes a plain call under a name that does not.
-/
theorem beginsWord_lowered
    {config : Config String}
    {element : Element String}
    {scope : Scope}
    {lowered : Lowered String}
    (hLower : element.lower config scope = .ok lowered) :
    beginsWord (Emission.lowered lowered) =
      (element.tag.isComponent || config.useConstructorCall
        || beginsWord config.importAs) := by
  have hNew : beginsWord "new " = true := by decide +kernel
  cases hTag : element.tag.isComponent with
  | true =>
      rcases lower_eq_component hTag hLower with
        ⟨hFlaw, props, style, hLowered⟩
      rw [hLowered, Bool.true_or, Bool.true_or]
      simp only [Emission.lowered, Emission.componentCall]
      cases style with
      | invoke =>
          simp only [String.append_assoc]
          exact
            beginsWord_append
              (TagName.beginsWord_text hTag hFlaw) _
      | constructAndRender =>
          simp only [String.append_assoc]
          exact beginsWord_append hNew _
  | false =>
      rcases lower_eq_template hTag hLower with
        ⟨form, _, hLowered⟩
      rw [hLowered, Bool.false_or]
      simp only [Emission.lowered, Emission.templateCall]
      cases config.useConstructorCall with
      | true =>
          simp only [String.append_assoc, if_true]
          exact beginsWord_append hNew _
      | false =>
          simp only [Bool.false_or, Bool.false_eq_true,
            if_false, String.empty_append]
          rw [String.append_assoc]
          exact beginsWord_append_bracket _ _

end Element

------------------------------------------------------------
-- Modules
------------------------------------------------------------

/- An element becomes what it is lowered to in some scope. -/
theorem Markup.lower_of_emitted
    {config : Config String}
    {source : List Char}
    {around : Surroundings}
    {markup : Markup Declaration}
    {text : String}
    (hText : markup.emitted config source around = .ok text) :
    ∃ element scope lowered,
      element.tag = markup.tag ∧
        Element.lower config element scope = .ok lowered ∧
        text = Emission.lowered lowered := by
  rcases markup with ⟨span, tag, attributes, content⟩
  rw [Markup.emitted] at hText
  rcases exists_of_bind_eq_ok hText with ⟨_, _, hRest⟩
  rcases exists_of_bind_eq_ok hRest with ⟨_, _, hLast⟩
  rcases exists_of_bind_eq_ok hLast with
    ⟨lowered, hLower, hReturn⟩
  cases hReturn
  exact ⟨_, _, lowered, rfl, hLower, rfl⟩

/- Where code becomes a text, so do the elements in it. -/
theorem Code.exists_emitted
    {config : Config String}
    {source : List Char}
    {around : Surroundings}
    {code : Code Declaration}
    {text : String}
    (hText : code.emitted config source around = .ok text)
    {placed : Surroundings × Markup Declaration}
    (hPlaced : placed ∈ code.outermost around) :
    ∃ own,
      placed.2.emitted config source placed.1 = .ok own := by
  rcases code with ⟨span, pieces⟩
  rw [Code.emitted, splice, patchesIn_eq] at hText
  rcases found_of_spliceFrom hText with ⟨given, hGiven⟩
  have hPatch :
      placedPatch config source placed ∈
        ((outermostIn (none :: around) pieces).map
          (placedPatch config source)).insertionSort
            Patch.Precedes :=
    (List.mem_insertionSort _).mpr (List.mem_map_of_mem hPlaced)
  rw [hGiven] at hPatch
  rcases List.mem_map.mp hPatch with ⟨patch, _, hEq⟩
  exact ⟨patch.text, (congrArg Patch.text hEq).symm⟩

/- All code of a module that is lowered becomes a text. -/
theorem Outline.exists_emitted
    {config : Config String}
    {file source : String}
    {outline : Outline}
    {output : Output}
    (hRead : Script.readModule source = .ok outline)
    (hRun : transform config file source = .ok output)
    {code : Surroundings × Code Declaration}
    (hCode : code ∈ (outline.whole source).embedded []) :
    ∃ text,
      code.2.emitted config source.toList code.1 = .ok text := by
  rcases
      Tree.lowerAll_progress
        (outline.plant_wellFormed source)
        (outline.plant_rootIsCode source) Host.text config with
    ⟨root, _, _, hAll⟩ | ⟨id, error, _, hLowered⟩
  · rcases
        (outline.plant_meaning config source).2 code hCode with
      ⟨id, parent, parts, hNode, hSame⟩
    rcases hAll id _ hNode rfl with ⟨token, hToken⟩
    exact ⟨token, hSame.symm.trans hToken⟩
  · simp only [transform, hRead, Outline.lower, hLowered]
      at hRun
    cases hRun

/-
  An element that stands directly in code is kept apart from a
  word before it just if there is no such word, or it becomes a
  plain call under a name that begins with no character of a
  word.  Components and constructions run into the word.
-/
theorem transform_separates_iff
    (config : Config String)
    (file source : String)
    (outline : Outline)
    (output : Output)
    (hRead : Script.readModule source = .ok outline)
    (hRun : transform config file source = .ok output) :
    ∀ code ∈ (outline.whole source).embedded [],
      ∀ placed ∈ code.2.outermost code.1,
        ∃ text,
          placed.2.emitted config source.toList placed.1 =
              .ok text ∧
            (Separated source.toList placed.2.span.start text ↔
              Text.followsWord source.toList
                  placed.2.span.start =
                false ∨
              (placed.2.tag.isComponent = false ∧
                config.useConstructorCall = false ∧
                beginsWord config.importAs = false)) := by
  intro code hCode placed hPlaced
  rcases Outline.exists_emitted hRead hRun hCode with
    ⟨whole, hWhole⟩
  rcases Code.exists_emitted hWhole hPlaced with ⟨text, hText⟩
  rcases Markup.lower_of_emitted hText with
    ⟨element, scope, lowered, hTag, hLower, hLowered⟩
  refine ⟨text, hText, ?_⟩
  unfold Separated
  rw [hLowered, Element.beginsWord_lowered hLower, hTag]
  cases Text.followsWord source.toList placed.2.span.start with
  | false => simp
  | true => simp [and_assoc]

/- Some element in the code of a module runs into a word. -/
def Outline.gluesWord
    (config : Config String)
    (source : String)
    (outline : Outline) : Bool :=
  ((outline.whole source).embedded []).any fun code =>
    (code.2.outermost code.1).any fun placed =>
      Text.followsWord source.toList placed.2.span.start
        && (placed.2.emitted config source.toList
          placed.1).toOption.any beginsWord

/- An element right behind a word, inside a function. -/
def gluedSource : String :=
  "function f() \x7b return<p/>; \x7d"

/- Templates are constructed under their own name. -/
def constructions : Config String :=
  ⟨"rt", "Template", "Template", false, true, none, none⟩

/- The word and the construction become one word. -/
theorem transform_glues_word :
    (Script.readModule gluedSource).toOption.any
        (Outline.gluesWord constructions gluedSource) =
      true ∧
    transform constructions "test.tsx" gluedSource =
      .ok
        ⟨"import \x7b Template \x7d from \"rt\";\n"
          ++ "function f() \x7b returnnew Template([\"<p />\"]"
          ++ ", []); \x7d", 1⟩ := by
  decide +kernel

theorem transform_separates_iff_glued :
    ∃ outline,
      Script.readModule gluedSource = .ok outline ∧
        ∃ code ∈ (outline.whole gluedSource).embedded [],
          ∃ placed ∈ code.2.outermost code.1,
            ∃ text,
              placed.2.emitted constructions
                    gluedSource.toList placed.1 =
                  .ok text ∧
                ¬Separated gluedSource.toList
                  placed.2.span.start text := by
  have hGlues :
      (Script.readModule gluedSource).toOption.any
          (Outline.gluesWord constructions gluedSource) =
        true := by
    decide +kernel
  have hRuns :
      (transform constructions "test.tsx"
        gluedSource).toOption.isSome = true := by
    decide +kernel
  cases hRead : Script.readModule gluedSource with
  | error error =>
      rw [hRead] at hGlues
      cases hGlues
  | ok outline =>
      rw [hRead] at hGlues
      rcases List.any_eq_true.mp hGlues with
        ⟨code, hCode, hInside⟩
      rcases List.any_eq_true.mp hInside with
        ⟨placed, hPlaced, hBoth⟩
      have hFollows := (Bool.and_eq_true_iff.mp hBoth).1
      cases hRun :
          transform constructions "test.tsx" gluedSource with
      | error report =>
          rw [hRun] at hRuns
          cases hRuns
      | ok output =>
          rcases
              transform_separates_iff constructions "test.tsx"
                gluedSource outline output hRead hRun code
                hCode placed hPlaced with
            ⟨text, hText, hIff⟩
          refine
            ⟨outline, rfl, code, hCode, placed, hPlaced, text,
              hText, ?_⟩
          intro hSeparated
          rcases hIff.mp hSeparated with hFree | ⟨_, hPlain, _⟩
          · rw [hFollows] at hFree
            cases hFree
          · cases hPlain

end MarkupLowering
