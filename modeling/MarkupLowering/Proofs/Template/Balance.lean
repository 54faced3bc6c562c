import MarkupLowering.Lowering

/-
  This file defines when a template in the making is balanced:
  static texts and dynamic tokens alternate, and the flag says
  whether a static text is due.

  Every step of attributes and children keeps the balance,
  also one that fails.

  Key definitions include:
    * `TemplateParts.Balanced`

  Key theorems include:
    * `TemplateParts.Balanced.addAttributes`
    * `TemplateParts.Balanced.addChildren`
    * `TemplateParts.Balanced.finish_eq`
    * `Element.openingTag_balanced`
    * `Element.closingTag_balanced`
-/

namespace MarkupLowering

variable {T : Type}

namespace TemplateParts

------------------------------------------------------------
-- Extending the Last Text
------------------------------------------------------------

theorem extendLast_ne_nil
    (more : String)
    (statics : List String) :
    extendLast more statics ≠ [] := by
  cases statics with
  | nil => simp [extendLast]
  | cons first rest => cases rest <;> simp [extendLast]

theorem length_extendLast
    (more : String)
    {statics : List String}
    (hStatics : statics ≠ []) :
    (extendLast more statics).length = statics.length := by
  induction statics with
  | nil => exact absurd rfl hStatics
  | cons first rest ih =>
      cases rest with
      | nil => rfl
      | cons second rest =>
          simp only [extendLast, List.length_cons]
          rw [ih (List.cons_ne_nil _ _), List.length_cons]

------------------------------------------------------------
-- Step by Step
------------------------------------------------------------

/- What each attribute keeps, a list of attributes keeps. -/
theorem addAttributes_keeps
    {P : TemplateParts T → Prop}
    {config : Config T}
    (hStep :
      ∀ parts attr,
        P parts →
          P (parts.addAttribute config attr).1)
    {parts : TemplateParts T}
    (hParts : P parts)
    (attributes : List (Attribute T)) :
    P (parts.addAttributes config attributes).1 := by
  induction attributes generalizing parts with
  | nil => exact hParts
  | cons attr rest ih =>
      have hNext := hStep parts attr hParts
      simp only [addAttributes]
      split
      · rename_i next error hAdd
        rw [hAdd] at hNext
        exact hNext
      · rename_i next hAdd
        rw [hAdd] at hNext
        exact ih hNext

/- What each child keeps, a list of children keeps. -/
theorem addChildren_keeps
    {P : TemplateParts T → Prop}
    (hStep :
      ∀ parts child,
        P parts → P (parts.addChild child).1)
    {parts : TemplateParts T}
    (hParts : P parts)
    (children : List (Child T)) :
    P (parts.addChildren children).1 := by
  induction children generalizing parts with
  | nil => exact hParts
  | cons child rest ih =>
      have hNext := hStep parts child hParts
      simp only [addChildren]
      split
      · rename_i next error hAdd
        rw [hAdd] at hNext
        exact hNext
      · rename_i next hAdd
        rw [hAdd] at hNext
        exact ih hNext

------------------------------------------------------------
-- Balance
------------------------------------------------------------

/-
  There is one static text more than there are dynamic tokens,
  counting the one that is due after a last dynamic token.
-/
structure Balanced (parts : TemplateParts T) : Prop where
  begun : parts.statics ≠ []
  count :
    parts.statics.length + parts.endsDynamic.toNat =
      parts.dynamics.length + 1

namespace Balanced

variable {parts : TemplateParts T}

theorem seeded
    (first : String) :
    (TemplateParts.seeded first : TemplateParts T).Balanced where
  begun := List.cons_ne_nil _ _
  count := rfl

theorem appendStatic
    (hBalanced : parts.Balanced)
    (text : String) :
    (parts.appendStatic text).Balanced where
  begun := extendLast_ne_nil text parts.statics
  count := by
    have hCount := hBalanced.count
    simp only [TemplateParts.appendStatic]
    rw [length_extendLast text hBalanced.begun]
    exact hCount

/- A new static text may only come where one is due. -/
theorem pushStatic
    (hBalanced : parts.Balanced)
    (hDue : parts.endsDynamic = true)
    (text : String) :
    (parts.pushStatic text).Balanced where
  begun := by simp [TemplateParts.pushStatic]
  count := by
    have hCount := hBalanced.count
    rw [hDue] at hCount
    simpa [TemplateParts.pushStatic] using hCount

theorem pushDynamic
    (hBalanced : parts.Balanced)
    (token : T) :
    (parts.pushDynamic token).Balanced := by
  have hCount := hBalanced.count
  have hBegun := hBalanced.begun
  cases hDue : parts.endsDynamic with
  | false =>
      rw [hDue] at hCount
      refine ⟨?_, ?_⟩
      · simpa [TemplateParts.pushDynamic, hDue] using hBegun
      · simp [TemplateParts.pushDynamic, hDue] at hCount ⊢
        omega
  | true =>
      rw [hDue] at hCount
      refine ⟨?_, ?_⟩
      · simp [TemplateParts.pushDynamic, hDue]
      · simp [TemplateParts.pushDynamic, hDue] at hCount ⊢
        omega

theorem text
    (hBalanced : parts.Balanced)
    (value : String) :
    (parts.text value).Balanced := by
  unfold TemplateParts.text
  split
  · rename_i hDue
    exact hBalanced.pushStatic hDue value
  · exact hBalanced.appendStatic value

/- A token in the middle of an opening tag. -/
theorem dynamicBetween
    (hBalanced : parts.Balanced)
    (before after : String)
    (token : T) :
    (((parts.appendStatic before).pushDynamic
      token).pushStatic after).Balanced :=
  ((hBalanced.appendStatic before).pushDynamic
    token).pushStatic rfl after

------------------------------------------------------------
-- Attributes
------------------------------------------------------------

theorem addAttribute
    (hBalanced : parts.Balanced)
    (config : Config T)
    (attr : Attribute T) :
    (parts.addAttribute config attr).1.Balanced := by
  cases attr with
  | spread argument span =>
      exact hBalanced.dynamicBetween " " "" argument
  | named attr =>
      simp only [TemplateParts.addAttribute]
      cases (config.transformAttribute attr).value with
      | absent => exact hBalanced
      | empty => exact hBalanced
      | other kind => exact hBalanced
      | text value => exact hBalanced.appendStatic _
      | expression token =>
          exact hBalanced.dynamicBetween _ _ token
      | element token =>
          exact hBalanced.dynamicBetween _ _ token

theorem addAttributes
    (hBalanced : parts.Balanced)
    (config : Config T)
    (attributes : List (Attribute T)) :
    (parts.addAttributes config attributes).1.Balanced :=
  addAttributes_keeps
    (fun _ attr hParts => hParts.addAttribute config attr)
    hBalanced attributes

------------------------------------------------------------
-- Children
------------------------------------------------------------

theorem addChild
    (hBalanced : parts.Balanced)
    (child : Child T) :
    (parts.addChild child).1.Balanced := by
  cases child with
  | text value span => exact hBalanced.text value
  | expression token span => exact hBalanced.pushDynamic token
  | lowered token span => exact hBalanced.pushDynamic token
  | raw tag span => exact hBalanced
  | other kind span => exact hBalanced

theorem addChildren
    (hBalanced : parts.Balanced)
    (children : List (Child T)) :
    (parts.addChildren children).1.Balanced :=
  addChildren_keeps
    (fun _ child hParts => hParts.addChild child)
    hBalanced children

------------------------------------------------------------
-- Finishing
------------------------------------------------------------

/- A template can be finished just where no text is due. -/
theorem finish_eq
    (hBalanced : parts.Balanced) :
    parts.finish =
      if parts.endsDynamic then
        .error (.unplaced
          (.unbalancedTemplate parts.statics.length
            parts.dynamics.length))
      else
        .ok ⟨parts.statics, parts.dynamics, []⟩ := by
  have hCount := hBalanced.count
  cases hDue : parts.endsDynamic with
  | false =>
      rw [hDue] at hCount
      unfold finish
      rw [if_pos (by simpa using hCount)]
      rfl
  | true =>
      rw [hDue] at hCount
      simp only [Bool.toNat_true] at hCount
      unfold finish
      rw [if_neg (by omega)]
      rfl

end Balanced

------------------------------------------------------------
-- The Flag
------------------------------------------------------------

/- After an attribute no static text is due. -/
theorem addAttribute_endsDynamic
    {parts : TemplateParts T}
    (hDue : parts.endsDynamic = false)
    (config : Config T)
    (attr : Attribute T) :
    (parts.addAttribute config attr).1.endsDynamic = false := by
  cases attr with
  | spread argument span => rfl
  | named attr =>
      simp only [addAttribute]
      cases (config.transformAttribute attr).value with
      | absent => exact hDue
      | empty => exact hDue
      | other kind => exact hDue
      | text value => exact hDue
      | expression token => rfl
      | element token => rfl

theorem addAttributes_endsDynamic
    {parts : TemplateParts T}
    (hDue : parts.endsDynamic = false)
    (config : Config T)
    (attributes : List (Attribute T)) :
    (parts.addAttributes config attributes).1.endsDynamic =
      false := by
  apply addAttributes_keeps
    (P := fun parts => parts.endsDynamic = false)
    (fun _ attr hParts =>
      addAttribute_endsDynamic hParts config attr)
    hDue attributes

/- After text no further static text is due. -/
theorem text_endsDynamic
    (parts : TemplateParts T)
    (value : String) :
    (parts.text value).endsDynamic = false := by
  unfold text
  split
  · rfl
  · rename_i hDue
    simpa [appendStatic] using hDue

/- There is nothing to forget where no static text is due. -/
theorem resetLast_eq
    {parts : TemplateParts T}
    (hDue : parts.endsDynamic = false) :
    parts.resetLast = parts := by
  cases parts
  simp only [resetLast]
  cases hDue
  rfl

end TemplateParts

------------------------------------------------------------
-- Tags
------------------------------------------------------------

namespace Element

/- An opening tag is balanced, and no text is due after it. -/
theorem openingTag_balanced
    (config : Config T)
    (element : Element T) :
    (element.openingTag config).1.Balanced ∧
      (element.openingTag config).1.endsDynamic = false := by
  have hSeeded (first : String) :
      (TemplateParts.seeded first : TemplateParts T).Balanced ∧
        (TemplateParts.seeded first : TemplateParts T).endsDynamic =
          false :=
    ⟨.seeded first, rfl⟩
  have hAttributes :=
    (hSeeded ("<" ++ element.tag.text)).1.addAttributes config
      element.attributes
  have hDue :=
    TemplateParts.addAttributes_endsDynamic
      (hSeeded ("<" ++ element.tag.text)).2 config
      element.attributes
  unfold openingTag
  split
  · exact hSeeded ""
  · split
    · rename_i parts error hParts
      rw [hParts] at hAttributes hDue
      exact ⟨hAttributes, hDue⟩
    · rename_i parts hParts
      rw [hParts] at hAttributes hDue
      split
      · exact ⟨hAttributes.appendStatic _, hDue⟩
      · exact ⟨hAttributes.appendStatic _, hDue⟩

theorem closingTag_balanced
    {parts : TemplateParts T}
    (hBalanced : parts.Balanced)
    (element : Element T) :
    (element.closingTag parts).Balanced := by
  unfold closingTag
  split
  · exact hBalanced.text ""
  · split
    · exact hBalanced.text _
    · exact hBalanced

end Element

end MarkupLowering
