import MarkupLowering.Proofs.Template.TagNames
import MarkupLowering.Proofs.Text.UpperCasing

/-
  This file shows which elements become calls of components.
  An element without attributes, in a function or a class,
  becomes one exactly if its name refers to a component.

  By the rule for names, the leading character of such a name
  is the same in upper case.  The test that is made is another
  one: the character is not in lower case.  So the rule is kept
  for all names but those that begin with a small letter that
  has no capital, which are taken for plain elements, and those
  that begin with a title-case letter, which are taken for
  components.

  Key definitions include:
    * `TagName.leadsUnchanged`

  Key theorems include:
    * `TagName.isComponent_iff`
    * `TagName.isComponent_agrees_iff`
    * `Element.lower_component_iff`
    * `Element.lower_classifies_tag`
-/

namespace MarkupLowering

------------------------------------------------------------
-- Names
------------------------------------------------------------

namespace TagName

/-
  The rule for names of components: the leading character is
  the same in upper case.  A fragment has none.
-/
def leadsUnchanged (tag : TagName) : Bool :=
  tag.leading?.any fun c => Text.upperChar c == [c]

/- The leading character of the name of a component. -/
theorem isComponent_iff
    (tag : TagName) :
    tag.isComponent = true ↔
      ∃ c,
        tag.leading? = some c ∧
          ((Text.upperChar c = [c] ∧ Text.isUnpaired c = false) ∨
            Text.isTitle c = true) := by
  unfold isComponent
  cases tag.leading? with
  | none => simp
  | some c =>
      simp only [Option.some.injEq, exists_eq_left', Bool.not_eq_true']
      exact Text.isLowercase_eq_false_iff c

/- The names that are judged by the rule. -/
theorem isComponent_agrees_iff
    (tag : TagName) :
    (tag.isComponent = true ↔ tag.leadsUnchanged = true) ↔
      ∀ c,
        tag.leading? = some c →
          Text.isUnpaired c = false ∧ Text.isTitle c = false := by
  unfold isComponent leadsUnchanged
  cases tag.leading? with
  | none => simp
  | some c =>
      simp only [Option.any_some, Option.some.injEq, forall_eq',
        Bool.not_eq_true', beq_iff_eq]
      exact Text.isLowercase_agrees_iff c

end TagName

------------------------------------------------------------
-- Elements
------------------------------------------------------------

namespace Element

variable {T : Type}

/- In a known scope a component can be used. -/
theorem styleIn_of_known
    {scope : Scope}
    (hScope : scope ≠ .unknown) :
    ∃ style, styleIn scope = some style := by
  cases scope with
  | unknown => exact absurd rfl hScope
  | within declaration =>
      cases declaration with
      | ofFunction => exact ⟨.invoke, rfl⟩
      | ofClass => exact ⟨.constructAndRender, rfl⟩

/-
  Without attributes, and in a known scope, nothing is in the
  way of the use of a component.
-/
theorem lower_component_iff
    (config : Config T)
    {element : Element T}
    {scope : Scope}
    (hFlaw : element.tag.flaw? = none)
    (hAttributes : element.attributes = [])
    (hScope : scope ≠ .unknown) :
    (∃ call, element.lower config scope = .ok (.component call)) ↔
      element.tag.isComponent = true := by
  constructor
  · rintro ⟨call, hLower⟩
    exact (lower_component hLower).1
  · intro hTag
    rcases styleIn_of_known hScope with ⟨style, hStyle⟩
    refine ⟨⟨element.tag.text, [], style⟩, ?_⟩
    simp [lower, lowerUnplaced, lowerComponent, hFlaw, hTag,
      hAttributes, properties, hStyle, Except.map]

/-
  An element without attributes becomes the call of a component
  if the leading character of its name is the same in upper case
  and is not an unpaired one, or if it is a title-case letter.
  So it is judged by the rule exactly if the character is of
  neither kind.
-/
theorem lower_classifies_tag
    (config : Config T)
    (element : Element T)
    (scope : Scope)
    (hFlaw : element.tag.flaw? = none)
    (hAttributes : element.attributes = [])
    (hScope : scope ≠ .unknown) :
    ((∃ call, element.lower config scope = .ok (.component call)) ↔
        ∃ c,
          element.tag.leading? = some c ∧
            ((Text.upperChar c = [c] ∧ Text.isUnpaired c = false) ∨
              Text.isTitle c = true)) ∧
      (((∃ call, element.lower config scope = .ok (.component call)) ↔
          element.tag.leadsUnchanged = true) ↔
        ∀ c,
          element.tag.leading? = some c →
            Text.isUnpaired c = false ∧ Text.isTitle c = false) := by
  rw [lower_component_iff config hFlaw hAttributes hScope]
  exact
    ⟨element.tag.isComponent_iff, element.tag.isComponent_agrees_iff⟩

/- An element whose name is a letter in lower case with no other form. -/
def ordinal : Element Nat where
  tag := .identifier "ª"
  attributes := []
  children := []
  hasClosingTag := false
  span := ⟨0, 6⟩

/- By the rule this is a component, but it becomes a template. -/
theorem lower_misjudges_ordinal :
    ordinal.tag.flaw? = none ∧
      ordinal.attributes = [] ∧
      ordinal.tag.leadsUnchanged = true ∧
      ordinal.lower ⟨"rt", "T", "T", false, true, none, none⟩
          (.within (.ofFunction ⟨none, false⟩)) =
        .ok (.template ⟨"T", true, ⟨["<ª />"], [], []⟩⟩) := by
  refine ⟨?_, rfl, ?_, rfl⟩
  · decide +kernel
  · decide +kernel

/-
  A member of an object whose name begins with a title-case
  letter.
-/
def digraph : Element Nat :=
  { ordinal with tag := .member ["ǅep", "a"] }

theorem lower_classifies_tag_digraph :
    digraph.tag.flaw? = none ∧
      (∃ call,
        digraph.lower ⟨"rt", "T", "T", false, true, none, none⟩
            (.within (.ofClass ⟨none, [], []⟩)) =
          .ok (.component call)) ∧
      ¬((∃ call,
          digraph.lower ⟨"rt", "T", "T", false, true, none, none⟩
              (.within (.ofClass ⟨none, [], []⟩)) =
            .ok (.component call)) ↔
        digraph.tag.leadsUnchanged = true) := by
  have hFlaw : digraph.tag.flaw? = none := by
    decide +kernel
  have hLeading : digraph.tag.leading? = some 'ǅ' := by
    decide +kernel
  have hTitle : Text.isTitle 'ǅ' = true := by
    decide
  rcases lower_classifies_tag
      ⟨"rt", "T", "T", false, true, none, none⟩ digraph
      (.within (.ofClass ⟨none, [], []⟩)) hFlaw rfl nofun with
    ⟨hComponent, hRule⟩
  refine ⟨hFlaw, ?_, ?_⟩
  · rw [hComponent]
    exact ⟨'ǅ', hLeading, Or.inr hTitle⟩
  · rw [hRule]
    intro hNone
    rw [(hNone 'ǅ' hLeading).2] at hTitle
    cases hTitle

end Element

end MarkupLowering
