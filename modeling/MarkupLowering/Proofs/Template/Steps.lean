import MarkupLowering.Proofs.Template.Balance

/-
  This file shows that a template in the making stays balanced
  through any steps that write to it, also through steps that
  fail midway.  The one condition is that a new static text is
  begun directly after a dynamic token, and it cannot be
  dropped.

  Key definitions include:
    * `TemplateParts.Step`
    * `TemplateParts.run`
    * `TemplateParts.Timely`

  Key theorems include:
    * `TemplateParts.Balanced.step`
    * `TemplateParts.Balanced.run`
    * `TemplateParts.Balanced.pushStatic_iff`
    * `TemplateParts.run_keeps_count`
-/

namespace MarkupLowering

variable {T : Type}

namespace TemplateParts

------------------------------------------------------------
-- Steps
------------------------------------------------------------

/- A step that writes to a template in the making. -/
inductive Step (T : Type) where
  | appendStatic (value : String)
  | text (value : String)
  | pushDynamic (token : T)
  | pushStatic (value : String)
  | addChildren (children : List (Child T))
  | addAttribute (config : Config T) (attr : Attribute T)

namespace Step

/- What a step leaves behind, whether it fails or not. -/
def apply
    (parts : TemplateParts T) :
    Step T → TemplateParts T
  | appendStatic value => parts.appendStatic value
  | text value => parts.text value
  | pushDynamic token => parts.pushDynamic token
  | pushStatic value => parts.pushStatic value
  | addChildren children => (parts.addChildren children).1
  | addAttribute config attr => (parts.addAttribute config attr).1

/-
  The step comes at its time.  Only the beginning of a new
  static text has one: directly after a dynamic token.
-/
def IsTimely
    (parts : TemplateParts T) :
    Step T → Prop
  | pushStatic _ => parts.endsDynamic = true
  | _ => True

end Step

/- Take steps, one after the other. -/
def run
    (parts : TemplateParts T)
    (steps : List (Step T)) : TemplateParts T :=
  steps.foldl Step.apply parts

/- Each of the steps comes at its time. -/
def Timely : TemplateParts T → List (Step T) → Prop
  | _, [] => True
  | parts, step :: rest =>
      step.IsTimely parts ∧ Timely (step.apply parts) rest

------------------------------------------------------------
-- Balance
------------------------------------------------------------

namespace Balanced

variable {parts : TemplateParts T}

theorem step
    (hBalanced : parts.Balanced)
    {step : Step T}
    (hStep : step.IsTimely parts) :
    (step.apply parts).Balanced := by
  cases step with
  | appendStatic value => exact hBalanced.appendStatic value
  | text value => exact hBalanced.text value
  | pushDynamic token => exact hBalanced.pushDynamic token
  | pushStatic value => exact hBalanced.pushStatic hStep value
  | addChildren children => exact hBalanced.addChildren children
  | addAttribute config attr =>
      exact hBalanced.addAttribute config attr

theorem run
    (hBalanced : parts.Balanced)
    {steps : List (Step T)}
    (hSteps : Timely parts steps) :
    (parts.run steps).Balanced := by
  induction steps generalizing parts with
  | nil => exact hBalanced
  | cons step rest ih =>
      exact ih (hBalanced.step hSteps.1) hSteps.2

/- A new static text at any other time breaks the balance. -/
theorem pushStatic_iff
    (hBalanced : parts.Balanced)
    (value : String) :
    (parts.pushStatic value).Balanced ↔
      parts.endsDynamic = true := by
  constructor
  · intro hPushed
    have hBefore := hBalanced.count
    have hAfter := hPushed.count
    cases hDue : parts.endsDynamic with
    | true => rfl
    | false =>
        rw [hDue] at hBefore
        simp only [TemplateParts.pushStatic, List.length_append,
          List.length_singleton, Bool.toNat_false] at hBefore hAfter
        omega
  · intro hDue
    exact hBalanced.pushStatic hDue value

theorem finish_ok_iff
    (hBalanced : parts.Balanced) :
    (∃ form, parts.finish = .ok form) ↔
      parts.endsDynamic = false := by
  rw [hBalanced.finish_eq]
  cases parts.endsDynamic with
  | false => simp
  | true => simp

end Balanced

/-
  A template in the making is balanced after any steps that come
  at their time: it has one static text more than it has dynamic
  tokens, counting the one that is due after a dynamic token.
  So it can be finished just when no text is due, and a new
  static text keeps the balance just when one is.
-/
theorem run_keeps_count
    (first : String)
    {steps : List (Step T)}
    (hSteps : Timely (seeded first) steps)
    {parts : TemplateParts T}
    (hRun : (seeded first).run steps = parts) :
    parts.statics.length + parts.endsDynamic.toNat =
        parts.dynamics.length + 1 ∧
      ((∃ form, parts.finish = .ok form) ↔
        parts.endsDynamic = false) ∧
      ∀ value,
        (parts.pushStatic value).Balanced ↔
          parts.endsDynamic = true := by
  have hBalanced : parts.Balanced := by
    rw [← hRun]
    exact (Balanced.seeded first).run hSteps
  exact
    ⟨hBalanced.count, hBalanced.finish_ok_iff,
      hBalanced.pushStatic_iff⟩

/- A child that is not yet lowered, between two tokens. -/
def stalledChildren : List (Child Nat) :=
  [.text "a" ⟨0, 1⟩, .expression 2 ⟨1, 2⟩, .raw "b" ⟨2, 3⟩,
    .expression 3 ⟨3, 4⟩]

/-
  Steps of all kinds.  The children and the first attribute
  fail, and a spread follows a dynamic token directly.
-/
def stumblingSteps : List (Step Nat) :=
  let config : Config Nat :=
    ⟨"rt", "T", "T", false, true, none, none⟩
  [.appendStatic "<p", .pushDynamic 1, .pushStatic ">",
    .addChildren stalledChildren,
    .addAttribute config (.named ⟨"id", .other "Regex", ⟨4, 5⟩⟩),
    .addAttribute config (.spread 4 ⟨5, 6⟩), .text "</p>",
    .pushDynamic 5]

theorem run_keeps_count_stumbling :
    ((seeded "").addChildren stalledChildren).2 =
        some (.placed (.notYetLowered "b") ⟨2, 3⟩) ∧
      Timely (seeded "") stumblingSteps ∧
      (seeded "").run stumblingSteps =
        ⟨["<p", ">a ", "", "</p>"], [1, 2, 4, 5], true⟩ ∧
      (¬∃ form,
        ((seeded "").run stumblingSteps).finish = .ok form) ∧
      (((seeded "").run stumblingSteps).pushStatic "").Balanced := by
  have hSteps : Timely (seeded "") stumblingSteps :=
    ⟨trivial, trivial, rfl, trivial, trivial, trivial, trivial,
      trivial, trivial⟩
  have hRun :
      (seeded "").run stumblingSteps =
        ⟨["<p", ">a ", "", "</p>"], [1, 2, 4, 5], true⟩ := by
    decide
  rcases run_keeps_count "" hSteps hRun with
    ⟨_, hFinish, hPush⟩
  refine ⟨rfl, hSteps, hRun, ?_, ?_⟩
  · rw [hRun, hFinish]
    decide
  · rw [hRun, hPush]

end TemplateParts

end MarkupLowering
