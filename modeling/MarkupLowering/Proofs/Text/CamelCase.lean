import MarkupLowering.Kebab
import MarkupLowering.Proofs.Text.CodeRanges
import Mathlib.Data.List.Chain

/-
  This file shows that no name in camel case is lost when it
  is put into lower case with hyphens: each hyphen stands for
  the capital letter that was there, so the name can be read
  back.

  The hyphen in front of a vendor is the one that can mislead.
  It stands for a capital letter as all others do, but a name
  that begins with `ms` and a capital letter gets it as well.
  These names, and only these, are not read back.

  Key definitions include:
    * `Kebab.IsCamel`
    * `Kebab.beginsMs`
    * `camelCase`

  Key theorems include:
    * `Text.lowerText_eq_map`
    * `Kebab.camelChars_hyphenate`
    * `Kebab.camelChars_chars`
    * `kebabCase_reads_back`
-/

namespace MarkupLowering

------------------------------------------------------------
-- Letters and Digits
------------------------------------------------------------

/- The classes of ASCII characters, by their codes. -/
theorem isUpper_iff
    (c : Char) :
    c.isUpper = true ↔ 65 ≤ c.toNat ∧ c.toNat ≤ 90 := by
  change decide (c.val ≥ 'A'.val ∧ c.val ≤ 'Z'.val) = true ↔ _
  rw [decide_eq_true_iff]
  exact Iff.rfl

theorem isLower_iff
    (c : Char) :
    c.isLower = true ↔ 97 ≤ c.toNat ∧ c.toNat ≤ 122 := by
  change
    (decide (c.val ≥ 'a'.val) && decide (c.val ≤ 'z'.val)) = true ↔ _
  rw [Bool.and_eq_true, decide_eq_true_iff, decide_eq_true_iff]
  exact Iff.rfl

theorem isDigit_iff
    (c : Char) :
    c.isDigit = true ↔ 48 ≤ c.toNat ∧ c.toNat ≤ 57 := by
  change
    (decide (c.val ≥ '0'.val) && decide (c.val ≤ '9'.val)) = true ↔ _
  rw [Bool.and_eq_true, decide_eq_true_iff, decide_eq_true_iff]
  exact Iff.rfl

theorem isAlphanum_lt
    {c : Char}
    (hChar : c.isAlphanum = true) :
    c.toNat < 0x80 := by
  change (c.isUpper || c.isLower || c.isDigit) = true at hChar
  rw [Bool.or_eq_true, Bool.or_eq_true, isUpper_iff, isLower_iff,
    isDigit_iff] at hChar
  omega

/- A capital letter is got back from its small form. -/
theorem toUpper_toLower
    {c : Char}
    (hCapital : c.isUpper = true) :
    c.toLower.isAlpha = true ∧ c.toLower.toUpper = c := by
  have hAll :
      (Text.CodeRanges.codes [(0x41, 0x5A)]).all
          (fun code =>
            (Char.ofNat code).toLower.isAlpha &&
              (Char.ofNat code).toLower.toUpper ==
                Char.ofNat code) =
        true := by
    decide
  have hCovers :
      Text.CodeRanges.covers [(0x41, 0x5A)] c = true := by
    simpa [Text.CodeRanges.covers] using (isUpper_iff c).mp hCapital
  have hChar :=
    Text.CodeRanges.all_of_covers
      (fun c => c.toLower.isAlpha && c.toLower.toUpper == c)
      hAll hCovers
  rw [Bool.and_eq_true, beq_iff_eq] at hChar
  exact hChar

/- What is no capital letter stays as it is. -/
theorem toLower_eq_self
    {c : Char}
    (hSmall : c.isUpper = false) :
    c.toLower = c := by
  unfold Char.toLower
  rw [dif_neg]
  intro hRange
  have hCapital : c.isUpper = true := decide_eq_true hRange
  rw [hSmall] at hCapital
  cases hCapital

theorem toLower_ne_hyphen
    {c : Char}
    (hChar : c.isAlphanum = true) :
    c.toLower ≠ '-' := by
  intro hHyphen
  by_cases hCapital : c.isUpper = true
  · have hLetter := (toUpper_toLower hCapital).1
    rw [hHyphen] at hLetter
    revert hLetter
    decide
  · rw [Bool.not_eq_true] at hCapital
    rw [toLower_eq_self hCapital] at hHyphen
    rw [hHyphen] at hChar
    revert hChar
    decide

/- ASCII text is put into lower case letter by letter. -/
theorem Text.lowerText_eq_map
    {cs : List Char}
    (hAscii : ∀ c ∈ cs, c.toNat < 0x80) :
    Text.lowerText cs = cs.map Char.toLower := by
  have hAfter :
      ∀ before,
        Text.lowerAfter before cs = cs.map Char.toLower := by
    induction cs with
    | nil =>
        intro before
        rfl
    | cons c rest ih =>
        intro before
        have hChar := hAscii c List.mem_cons_self
        have hSigma : (c.toNat == 0x3A3) = false := by
          rw [beq_eq_false_iff_ne]
          omega
        have hRest : ∀ d ∈ rest, d.toNat < 0x80 := by
          intro d hMem
          exact hAscii d (List.mem_cons_of_mem c hMem)
        rw [Text.lowerAfter, hSigma, Text.lowerChar,
          if_pos hChar, ih hRest, List.map_cons]
        rfl
  exact hAfter []

namespace Kebab

------------------------------------------------------------
-- Names in Camel Case
------------------------------------------------------------

/-
  The name is in camel case: it has letters and digits only,
  and a capital letter stands first or behind a small
  character.
-/
structure IsCamel (name : List Char) : Prop where
  alphanumeric : ∀ c ∈ name, c.isAlphanum = true
  capitals :
    name.IsChain fun c d => d.isUpper = true → isSmall c = true

instance
    (name : List Char) :
    Decidable (IsCamel name) :=
  decidable_of_iff
    (name.all Char.isAlphanum = true ∧
      name.IsChain fun c d =>
        d.isUpper = true → isSmall c = true)
    ⟨fun h => ⟨List.all_eq_true.mp h.1, h.2⟩,
      fun h => ⟨List.all_eq_true.mpr h.1, h.2⟩⟩

/- The name begins with the letters `ms` and a capital letter. -/
def beginsMs : List Char → Bool
  | 'm' :: 's' :: c :: _ => c.isUpper
  | _ => false

/- Read each hyphen before a letter as a capital of the letter. -/
def camelChars : List Char → List Char
  | [] => []
  | [c] => [c]
  | c :: d :: rest =>
      if c = '-' ∧ d.isAlpha then
        d.toUpper :: camelChars rest
      else
        c :: camelChars (d :: rest)

theorem camelChars_cons
    {c : Char}
    (hChar : c ≠ '-')
    (rest : List Char) :
    camelChars (c :: rest) = c :: camelChars rest := by
  cases rest with
  | nil => rfl
  | cons d rest => simp [camelChars, hChar]

theorem camelChars_hyphen
    {c : Char}
    (hLetter : c.isAlpha = true)
    (rest : List Char) :
    camelChars ('-' :: c :: rest) =
      c.toUpper :: camelChars rest := by
  simp [camelChars, hLetter]

theorem IsCamel.tail
    {c : Char}
    {rest : List Char}
    (hCamel : IsCamel (c :: rest)) :
    IsCamel rest where
  alphanumeric := by
    intro d hMem
    exact hCamel.alphanumeric d (List.mem_cons_of_mem c hMem)
  capitals := hCamel.capitals.tail

------------------------------------------------------------
-- Hyphens between Words
------------------------------------------------------------

theorem hyphenate_cons
    (c : Char)
    (rest : List Char) :
    ∃ behind, hyphenate (c :: rest) = c :: behind := by
  cases rest with
  | nil => exact ⟨[], rfl⟩
  | cons d rest =>
      rw [hyphenate]
      split
      · exact ⟨_, rfl⟩
      · exact ⟨_, rfl⟩

theorem mem_hyphenate
    {name : List Char}
    {c : Char}
    (hMem : c ∈ hyphenate name) :
    c = '-' ∨ c ∈ name := by
  fun_induction hyphenate name with
  | case1 => cases hMem
  | case2 d => exact Or.inr hMem
  | case3 d e rest hWords ih =>
      rcases List.mem_cons.mp hMem with hFirst | hMem
      · exact Or.inr (hFirst ▸ List.mem_cons_self)
      · rcases List.mem_cons.mp hMem with hHyphen | hRest
        · exact Or.inl hHyphen
        · exact (ih hRest).imp_right (List.mem_cons_of_mem d)
  | case4 d e rest hWord ih =>
      rcases List.mem_cons.mp hMem with hFirst | hRest
      · exact Or.inr (hFirst ▸ List.mem_cons_self)
      · exact (ih hRest).imp_right (List.mem_cons_of_mem d)

/- A name in camel case is put into lower case as ASCII text. -/
theorem IsCamel.lowerText_hyphenate
    {name : List Char}
    (hCamel : IsCamel name) :
    Text.lowerText (hyphenate name) =
      (hyphenate name).map Char.toLower := by
  apply Text.lowerText_eq_map
  intro c hMem
  rcases mem_hyphenate hMem with hHyphen | hName
  · rw [hHyphen]
    decide
  · exact isAlphanum_lt (hCamel.alphanumeric c hName)

/- All of a name but the case of its first letter is read back. -/
theorem camelChars_hyphenate
    {c : Char}
    {rest : List Char}
    (hCamel : IsCamel (c :: rest)) :
    camelChars ((hyphenate (c :: rest)).map Char.toLower) =
      c.toLower :: rest := by
  induction rest generalizing c with
  | nil => rfl
  | cons d rest ih =>
      have hFirst :=
        toLower_ne_hyphen
          (hCamel.alphanumeric c List.mem_cons_self)
      have hSecond :=
        toLower_ne_hyphen
          (hCamel.tail.alphanumeric d List.mem_cons_self)
      -- What follows `d` is read back, whatever becomes of `d`.
      rcases hyphenate_cons d rest with ⟨behind, hBehind⟩
      have hRest := ih hCamel.tail
      rw [hBehind, List.map_cons, camelChars_cons hSecond] at hRest
      have hTail := (List.cons.inj hRest).2
      by_cases hCapital : d.isUpper = true
      · have hSmall : isSmall c = true :=
          (List.isChain_cons_cons.mp hCamel.capitals).1 hCapital
        rcases toUpper_toLower hCapital with ⟨hLetter, hUpper⟩
        have hHyphen : ('-').toLower = '-' := by decide
        rw [hyphenate, hSmall, hCapital, Bool.and_self,
          if_pos rfl, hBehind, List.map_cons, List.map_cons,
          List.map_cons, hHyphen, camelChars_cons hFirst,
          camelChars_hyphen hLetter, hUpper, hTail]
      · rw [Bool.not_eq_true] at hCapital
        rw [hyphenate, hCapital, Bool.and_false,
          if_neg Bool.false_ne_true, hBehind, List.map_cons,
          List.map_cons, camelChars_cons hFirst,
          camelChars_cons hSecond, toLower_eq_self hCapital,
          hTail]

------------------------------------------------------------
-- The Hyphen in Front
------------------------------------------------------------

theorem beginsMs_cases
    {name : List Char}
    (hMs : beginsMs name = true) :
    ∃ c rest, name = 'm' :: 's' :: c :: rest ∧ c.isUpper = true := by
  unfold beginsMs at hMs
  split at hMs
  · exact ⟨_, _, rfl, hMs⟩
  · cases hMs

/- A vendor is marked by a capital letter or by `ms`. -/
theorem hasVendorMark_cons
    (c : Char)
    (rest : List Char) :
    hasVendorMark (c :: rest) =
      (c.isUpper || beginsMs (c :: rest)) := by
  by_cases hMs : beginsMs (c :: rest) = true
  · rcases beginsMs_cases hMs with ⟨d, behind, hName, hCapital⟩
    rw [hMs, Bool.or_true, hName, hasVendorMark, hCapital]
  · rw [Bool.not_eq_true] at hMs
    rw [hMs, Bool.or_false]
    unfold hasVendorMark
    split
    · rename_i hName
      -- The letters `ms` are there, but no capital letter.
      cases hName
      exact hMs
    · rename_i hName
      cases hName
      rfl
    · rename_i hName
      cases hName

/-
  A name in camel case is read back, but for a capital letter
  in place of the one that `ms` begins with.
-/
theorem camelChars_chars
    {name : List Char}
    (hCamel : IsCamel name) :
    camelChars (chars name) =
      if beginsMs name then 'M' :: name.tail else name := by
  cases name with
  | nil => rfl
  | cons c rest =>
      have hFirst :=
        toLower_ne_hyphen
          (hCamel.alphanumeric c List.mem_cons_self)
      have hChars := camelChars_hyphenate hCamel
      rcases hyphenate_cons c rest with ⟨behind, hBehind⟩
      rw [hBehind, List.map_cons, camelChars_cons hFirst] at hChars
      have hTail := (List.cons.inj hChars).2
      unfold chars
      rw [hCamel.lowerText_hyphenate, hBehind, List.map_cons,
        hasVendorMark_cons]
      by_cases hMs : beginsMs (c :: rest) = true
      · rcases beginsMs_cases hMs with ⟨d, after, hName, _⟩
        have hLetter : c = 'm' := (List.cons.inj hName).1
        rw [hMs, Bool.or_true, if_pos rfl, if_pos rfl, hLetter,
          camelChars_hyphen (by decide), hTail]
        rfl
      · rw [Bool.not_eq_true] at hMs
        rw [hMs, Bool.or_false, if_neg Bool.false_ne_true]
        by_cases hCapital : c.isUpper = true
        · rcases toUpper_toLower hCapital with ⟨hLetter, hUpper⟩
          rw [if_pos hCapital, camelChars_hyphen hLetter, hUpper,
            hTail]
        · rw [if_neg hCapital, camelChars_cons hFirst, hTail]
          rw [Bool.not_eq_true] at hCapital
          rw [toLower_eq_self hCapital]

end Kebab

------------------------------------------------------------
-- Reading Back
------------------------------------------------------------

/- A name in camel case, given in lower case with hyphens. -/
def camelCase (text : String) : String :=
  String.ofList (Kebab.camelChars text.toList)

theorem camelCase_kebabCase
    {name : String}
    (hCamel : Kebab.IsCamel name.toList) :
    (camelCase (kebabCase name)).toList =
      if Kebab.beginsMs name.toList then
        'M' :: name.toList.tail
      else
        name.toList := by
  rw [camelCase, kebabCase, String.toList_ofList,
    String.toList_ofList, Kebab.camelChars_chars hCamel]

/- Only `ms` before a capital letter is not read back. -/
theorem camelCase_kebabCase_iff
    {name : String}
    (hCamel : Kebab.IsCamel name.toList) :
    camelCase (kebabCase name) = name ↔
      Kebab.beginsMs name.toList = false := by
  rw [← String.toList_inj, camelCase_kebabCase hCamel]
  constructor
  · intro hSame
    rw [← Bool.not_eq_true]
    intro hMs
    rcases Kebab.beginsMs_cases hMs with ⟨c, rest, hName, _⟩
    rw [if_pos hMs, hName] at hSame
    exact absurd (List.cons.inj hSame).1 (by decide)
  · intro hMs
    rw [hMs, if_neg Bool.false_ne_true]

/-
  A name in camel case is read back from its form in lower case
  with hyphens, unless it begins with `ms` and a capital letter.
  So names that do not begin like this have different forms.
-/
theorem kebabCase_reads_back
    {name : String}
    (hCamel : Kebab.IsCamel name.toList) :
    (camelCase (kebabCase name) = name ↔
      Kebab.beginsMs name.toList = false) ∧
    ∀ other : String,
      Kebab.IsCamel other.toList →
      Kebab.beginsMs name.toList = false →
      Kebab.beginsMs other.toList = false →
      kebabCase name = kebabCase other →
        name = other := by
  refine ⟨camelCase_kebabCase_iff hCamel, ?_⟩
  intro other hOther hName hMs hForms
  rw [← (camelCase_kebabCase_iff hCamel).mpr hName, hForms]
  exact (camelCase_kebabCase_iff hOther).mpr hMs

theorem kebabCase_reads_back_vendor :
    kebabCase "WebkitBoxFlex2X" = "-webkit-box-flex2-x" ∧
      camelCase (kebabCase "WebkitBoxFlex2X") =
        "WebkitBoxFlex2X" ∧
      kebabCase "WebkitBoxFlex2X" ≠ kebabCase "webkitBoxFlex2X" ∧
      kebabCase "msFlex" = kebabCase "MsFlex" ∧
      camelCase (kebabCase "msFlex") ≠ "msFlex" := by
  have hVendor : Kebab.IsCamel "WebkitBoxFlex2X".toList := by
    decide
  have hPlain : Kebab.IsCamel "webkitBoxFlex2X".toList := by
    decide
  have hMs : Kebab.IsCamel "msFlex".toList := by
    decide
  rcases kebabCase_reads_back hVendor with ⟨hReads, hDiffer⟩
  refine ⟨by decide, hReads.mpr rfl, ?_, by decide, ?_⟩
  · intro hForms
    have hSame := hDiffer _ hPlain rfl rfl hForms
    exact absurd hSame (by decide)
  · intro hSame
    have hFalse := (kebabCase_reads_back hMs).1.mp hSame
    exact absurd hFalse (by decide)

end MarkupLowering
