import MarkupLowering.Json.Reader
import MarkupLowering.Json.Writer
import MarkupLowering.Proofs.Json.Numbers
import MarkupLowering.Proofs.Text.Quoting

/-
  This file shows that written JSON values are read back.  A
  decoder reads a text as a value if it takes that text and
  leaves what follows, whatever may follow a value.

  Arrays and objects are read item by item.  What an object
  gives depends on the fields that are collected, so a run
  through its members is described by the states between them.

  Key definitions include:
    * `Json.EndsValue`
    * `Json.Decoder.Reads`
    * `Json.separated`
    * `Json.Decoder.Fields.Collects`

  Key theorems include:
    * `Json.Decoder.reads_text`
    * `Json.Decoder.reads_natural`
    * `Json.Decoder.reads_variant`
    * `Json.Decoder.reads_optional`
    * `Json.Decoder.reads_list`
    * `Json.Decoder.reads_record`
    * `Json.Decoder.Reads.run`
-/

namespace MarkupLowering.Json

------------------------------------------------------------
-- Texts and What Follows
------------------------------------------------------------

/-
  What may follow a value: nothing, a comma, or the end of an
  array or an object.
-/
def EndsValue (rest : List Char) : Prop :=
  ∀ c ∈ rest.head?, c = ',' ∨ c = ']' ∨ c = '\x7d'

theorem endsValue_nil : EndsValue [] := by
  intro c hHead
  cases hHead

theorem endsValue_cons
    {c : Char}
    (hEnd : c = ',' ∨ c = ']' ∨ c = '\x7d')
    (rest : List Char) :
    EndsValue (c :: rest) := by
  intro first hHead
  cases hHead
  exact hEnd

/- A number ends where its value does. -/
theorem EndsValue.not_isInside
    {rest : List Char}
    (hRest : EndsValue rest) :
    ∀ c ∈ rest.head?, Number.isInside c = false := by
  intro c hHead
  rcases hRest c hHead with hEq | hEq | hEq <;>
    · rw [hEq]
      decide

theorem skipBlank_cons
    {c : Char}
    (hBlank : isBlank c = false)
    (rest : List Char) :
    skipBlank (c :: rest) = c :: rest := by
  simp [skipBlank, hBlank]

theorem not_isBlank_of_isDigit
    {c : Char}
    (hDigit : c.isDigit = true) :
    isBlank c = false := by
  rw [Bool.eq_false_iff]
  intro hBlank
  simp only [isBlank, Bool.or_eq_true, beq_iff_eq] at hBlank
  rcases hBlank with ((hEq | hEq) | hEq) | hEq <;>
    · rw [hEq] at hDigit
      cases hDigit

/-
  The text begins with a quote or a brace, as strings and
  objects do.
-/
def OpensMarked (text : String) : Prop :=
  ∃ c cs, text.toList = c :: cs ∧ (c = '"' ∨ c = '\x7b')

theorem OpensMarked.cons
    {text : String}
    (hOpens : OpensMarked text) :
    ∃ c cs,
      text.toList = c :: cs ∧
        isBlank c = false ∧
        c ≠ 'n' ∧ c ≠ ']' ∧ c ≠ '\x7d' := by
  rcases hOpens with ⟨c, cs, hText, hMark⟩
  refine ⟨c, cs, hText, ?_⟩
  rcases hMark with hEq | hEq <;>
    · rw [hEq]
      decide

------------------------------------------------------------
-- Separated Items
------------------------------------------------------------

/- Items with a comma before each of them but the first. -/
def separated : (isFirst : Bool) → List String → List Char
  | _, [] => []
  | true, item :: items => item.toList ++ separated false items
  | false, item :: items =>
      ',' :: (item.toList ++ separated false items)

theorem toList_intercalate_comma
    (items : List String) :
    (",".intercalate items).toList = separated true items := by
  have hOthers :
      ∀ item others,
        (",".intercalate (item :: others)).toList =
          item.toList ++ separated false others := by
    intro item others
    induction others generalizing item with
    | nil => simp [separated]
    | cons next others ih =>
        simp only [String.intercalate_cons_cons,
          String.toList_append, ih next, separated,
          List.append_assoc]
        rfl
  cases items with
  | nil => simp [separated]
  | cons item others => exact hOthers item others

/- Each of the items takes at least one character. -/
theorem length_le_separated
    {items : List String}
    (hOpens : ∀ item ∈ items, OpensMarked item)
    (isFirst : Bool) :
    items.length ≤ (separated isFirst items).length := by
  induction items generalizing isFirst with
  | nil => exact Nat.zero_le _
  | cons item others ih =>
      rcases List.forall_mem_cons.mp hOpens with
        ⟨⟨c, cs, hItem, _⟩, hOthers⟩
      have hRest := ih hOthers false
      cases isFirst <;>
        · simp only [separated, hItem, List.length_cons,
            List.length_append]
          omega

/- There is fuel for every item, and for the end of them. -/
theorem length_lt_fuel
    {items : List String}
    (hOpens : ∀ item ∈ items, OpensMarked item)
    (rest : List Char) :
    items.length < (separated true items ++ rest).length + 1 := by
  have hLength := length_le_separated hOpens true
  rw [List.length_append]
  omega

/- Behind an item comes another one or the end. -/
theorem endsValue_separated
    {rest : List Char}
    (hRest : EndsValue rest)
    (items : List String) :
    EndsValue (separated false items ++ rest) := by
  cases items with
  | nil => exact hRest
  | cons item items => exact endsValue_cons (Or.inl rfl) _

namespace Decoder

variable {α β σ : Type}

theorem ok_bind
    {ε : Type}
    (value : α)
    (next : α → Except ε β) :
    (Except.ok value >>= next) = next value :=
  rfl

/- The decoder reads the text as the value and leaves the rest. -/
def Reads
    (decoder : Decoder α)
    (text : String)
    (value : α) : Prop :=
  ∀ rest,
    EndsValue rest →
      decoder (text.toList ++ rest) = .ok (value, rest)

/- A document of one value is read as that value. -/
theorem Reads.run
    {decoder : Decoder α}
    {text : String}
    {value : α}
    (hReads : decoder.Reads text value) :
    decoder.run text = .ok value := by
  have hWhole := hReads [] endsValue_nil
  rw [List.append_nil] at hWhole
  unfold Decoder.run
  rw [hWhole]
  rfl

------------------------------------------------------------
-- Single Values
------------------------------------------------------------

theorem opensMarked_text
    (value : String) :
    OpensMarked (Writer.text value) :=
  ⟨'"', _, String.toList_ofList, Or.inl rfl⟩

theorem readBody_text
    (value : String)
    (rest : List Char) :
    ∃ body,
      (Writer.text value).toList = '"' :: body ∧
        Text.Quoted.readBody (body ++ rest) =
          some (value.toList, rest) := by
  refine ⟨_, String.toList_ofList, ?_⟩
  rw [List.append_assoc]
  exact Text.Quoted.readBody_flatMap_escape value.toList rest

theorem reads_text
    (value : String) :
    text.Reads (Writer.text value) value := by
  intro rest _
  rcases readBody_text value rest with ⟨body, hText, hBody⟩
  unfold text textAs
  rw [hText, List.cons_append, skipBlank_cons (by decide)]
  simp only [hBody]
  change Except.ok (String.ofList value.toList, rest) = _
  rw [String.ofList_toList]

theorem reads_boolean
    (value : Bool) :
    boolean.Reads (Writer.boolean value) value := by
  intro rest _
  cases value <;> rfl

/- A natural number is read if it is below the bound. -/
theorem reads_map
    {decoder : Decoder α}
    {text : String}
    {value : α}
    (hReads : decoder.Reads text value)
    (f : α → β) :
    (decoder.map f).Reads text (f value) := by
  intro rest hRest
  unfold map
  rw [hReads rest hRest]
  rfl

theorem reads_natural
    {bound n : Nat}
    (hWord : bound ≤ Number.bound)
    (hBound : n < bound)
    (kind : String) :
    (natural kind bound).Reads (Writer.natural n) n := by
  intro rest hRest
  have hRead :
      Number.read (Nat.toDigits 10 n ++ rest) =
        some (.natural n, rest) :=
    Number.read_toDigits (Nat.lt_of_lt_of_le hBound hWord)
      hRest.not_isInside
  have hText :
      (Writer.natural n).toList = Nat.toDigits 10 n :=
    Nat.toList_repr
  rw [hText]
  unfold natural
  cases hDigits : Nat.toDigits 10 n with
  | nil => exact absurd hDigits Nat.toDigits_ne_nil
  | cons first others =>
      have hFirst : first.isDigit = true :=
        Number.isDigit_of_mem (hDigits ▸ List.mem_cons_self)
      rw [hDigits] at hRead
      rw [List.cons_append] at hRead ⊢
      simp only [skipBlank_cons (not_isBlank_of_isDigit hFirst),
        hFirst, or_true, if_true, hRead]
      change (if n < bound then _ else _) = _
      rw [if_pos hBound]
      rfl

/- One of several names is read as what it stands for. -/
theorem reads_variant
    {names : List (String × α)}
    {name : String}
    {value : α}
    (hName : names.lookup name = some value)
    (whole : Bool) :
    (variant whole names).Reads (Writer.text name) value := by
  intro rest _
  rcases readBody_text name rest with ⟨body, hText, hBody⟩
  unfold variant
  rw [hText, List.cons_append, skipBlank_cons (by decide)]
  simp only [hBody, orMalformed, ok_bind, String.ofList_toList,
    hName]
  rfl

/- What does not begin like null is read as a value. -/
theorem optional_cons
    {c : Char}
    (hBlank : isBlank c = false)
    (hNull : c ≠ 'n')
    (decoder : Decoder α)
    (rest : List Char) :
    optional decoder (c :: rest) =
      (decoder (c :: rest)).map
        fun result => (some result.1, result.2) := by
  unfold optional
  rw [skipBlank_cons hBlank]
  split
  · rename_i hEq
    cases hEq
    exact absurd rfl hNull
  · cases decoder (c :: rest) <;> rfl

theorem reads_optional
    {decoder : Decoder α}
    {write : α → String}
    {value? : Option α}
    (hOpens : ∀ value ∈ value?, OpensMarked (write value))
    (hReads : ∀ value ∈ value?, decoder.Reads (write value) value) :
    (optional decoder).Reads (Writer.optional write value?)
      value? := by
  intro rest hRest
  cases value? with
  | none =>
      change optional decoder ("null".toList ++ rest) = _
      rfl
  | some value =>
      have hValue := hReads value rfl rest hRest
      rcases (hOpens value rfl).cons with
        ⟨c, cs, hText, hBlank, hNull, _⟩
      change optional decoder ((write value).toList ++ rest) = _
      rw [hText, List.cons_append] at hValue ⊢
      rw [optional_cons hBlank hNull, hValue]
      rfl

------------------------------------------------------------
-- Arrays
------------------------------------------------------------

theorem nextItem_separated
    {item : String}
    (hOpens : OpensMarked item)
    (isFirst : Bool)
    (items : List String)
    (rest : List Char) :
    nextItem isFirst
        (separated isFirst (item :: items) ++ rest) =
      .ok (some
        (item.toList ++ (separated false items ++ rest))) := by
  rcases hOpens.cons with ⟨c, cs, hItem, hBlank, _, hEnd, _⟩
  cases isFirst with
  | true =>
      simp only [separated, hItem, List.cons_append,
        List.append_assoc, nextItem, skipBlank_cons hBlank,
        if_neg hEnd, if_true]
  | false =>
      simp only [separated, hItem, List.cons_append,
        List.append_assoc, nextItem]
      rw [skipBlank_cons (by decide)]
      simp only [skipBlank_cons hBlank]
      rw [if_neg (by decide), if_neg (by decide),
        if_pos trivial]
      split
      · rename_i hEq
        cases hEq
      · rename_i hEq
        cases hEq
        exact absurd rfl hEnd
      · rfl

/- Items are read one after the other, up to the end. -/
theorem items_separated
    {item : Decoder α}
    {write : α → String}
    {values : List α}
    (hOpens : ∀ value ∈ values, OpensMarked (write value))
    (hReads :
      ∀ value ∈ values, item.Reads (write value) value)
    {fuel : Nat}
    (hFuel : values.length < fuel)
    (isFirst : Bool)
    (rest : List Char) :
    items item fuel isFirst
        (separated isFirst (values.map write) ++ ']' :: rest) =
      .ok (values, ']' :: rest) := by
  induction values generalizing fuel isFirst with
  | nil =>
      cases fuel with
      | zero => cases hFuel
      | succ fuel => rfl
  | cons value values ih =>
      rcases List.forall_mem_cons.mp hOpens with
        ⟨hFirst, hOthers⟩
      rcases List.forall_mem_cons.mp hReads with
        ⟨hValue, hValues⟩
      cases fuel with
      | zero => cases hFuel
      | succ fuel =>
          have hItem :=
            hValue _
              (endsValue_separated
                (endsValue_cons (Or.inr (Or.inl rfl)) rest)
                (values.map write))
          have hRest :=
            ih hOthers hValues (Nat.lt_of_succ_lt_succ hFuel)
              false
          simp only [items, List.map_cons,
            nextItem_separated hFirst, ok_bind, hItem, hRest]
          rfl

theorem reads_list
    {item : Decoder α}
    {write : α → String}
    {values : List α}
    (hOpens : ∀ value ∈ values, OpensMarked (write value))
    (hReads :
      ∀ value ∈ values, item.Reads (write value) value) :
    (list item).Reads (Writer.list (values.map write))
      values := by
  intro rest _
  have hText :
      (Writer.list (values.map write)).toList ++ rest =
        '[' :: (separated true (values.map write) ++
          ']' :: rest) := by
    simp only [Writer.list, String.toList_append,
      toList_intercalate_comma, List.append_assoc]
    rfl
  have hFuel :
      values.length <
        (separated true (values.map write) ++
          ']' :: rest).length + 1 := by
    rw [← List.length_map write]
    exact length_lt_fuel (List.forall_mem_map.mpr hOpens) _
  rw [hText]
  unfold list
  rw [skipBlank_cons (by decide)]
  simp only [items_separated hOpens hReads hFuel, ok_bind]
  rfl

------------------------------------------------------------
-- Objects
------------------------------------------------------------

/- A member is collected, whatever follows its value. -/
def Fields.Takes
    (fields : Fields σ α)
    (state : σ)
    (entry : String × String)
    (next : σ) : Prop :=
  ∀ rest,
    EndsValue rest →
      fields.member state entry.1
          (':' :: (entry.2.toList ++ rest)) =
        .ok (next, rest)

/- Members are collected one after the other. -/
inductive Fields.Collects
    (fields : Fields σ α) :
    σ → List (String × String) → σ → Prop
  | done
      (state : σ) :
      Collects fields state [] state
  | next
      {state middle last : σ}
      {entry : String × String}
      {entries : List (String × String)}
      (hTakes : fields.Takes state entry middle)
      (hRest : Collects fields middle entries last) :
      Collects fields state (entry :: entries) last

/- A field that is new is read behind the colon. -/
theorem once_bind
    {γ : Type}
    {decoder : Decoder β}
    {written : String}
    {value : β}
    (hReads : decoder.Reads written value)
    {rest : List Char}
    (hRest : EndsValue rest)
    (name : String)
    (next : β × List Char → Except Fault γ) :
    (once name none decoder
        (':' :: (written.toList ++ rest)) >>= next) =
      next (value, rest) := by
  have hOnce :
      once name none decoder
          (':' :: (written.toList ++ rest)) =
        .ok (value, rest) :=
    hReads rest hRest
  rw [hOnce, ok_bind]

theorem opensMarked_member
    (entry : String × String) :
    OpensMarked (Writer.member entry) := by
  rcases opensMarked_text entry.1 with ⟨c, cs, hText, hMark⟩
  refine ⟨c, cs ++ ':' :: entry.2.toList, ?_, hMark⟩
  simp [Writer.member, hText]

theorem toList_object
    (entries : List (String × String)) :
    (Writer.object entries).toList =
      '\x7b' :: (separated true
        (entries.map Writer.member) ++ ['\x7d']) := by
  simp only [Writer.object, String.toList_append,
    toList_intercalate_comma, List.append_assoc]
  rfl

theorem opensMarked_object
    (entries : List (String × String)) :
    OpensMarked (Writer.object entries) :=
  ⟨'\x7b', _, toList_object entries, Or.inr rfl⟩

theorem memberName_member
    (entry : String × String)
    (rest : List Char) :
    memberName ((Writer.member entry).toList ++ rest) =
      .ok (entry.1, ':' :: (entry.2.toList ++ rest)) := by
  rcases readBody_text entry.1
      (':' :: (entry.2.toList ++ rest)) with
    ⟨body, hText, hBody⟩
  have hMember :
      (Writer.member entry).toList ++ rest =
        '"' :: (body ++ ':' :: (entry.2.toList ++ rest)) := by
    simp [Writer.member, hText]
  rw [hMember]
  simp only [memberName, hBody]
  change Except.ok (String.ofList entry.1.toList, _) = _
  rw [String.ofList_toList]

theorem nextMember_separated
    {item : String}
    (hOpens : OpensMarked item)
    (isFirst : Bool)
    (items : List String)
    (rest : List Char) :
    nextMember isFirst
        (separated isFirst (item :: items) ++ rest) =
      .ok (some
        (item.toList ++ (separated false items ++ rest))) := by
  rcases hOpens.cons with ⟨c, cs, hItem, hBlank, _, _, hEnd⟩
  cases isFirst with
  | true =>
      simp only [separated, hItem, List.cons_append,
        List.append_assoc, nextMember, skipBlank_cons hBlank]
      rw [if_neg hEnd]
      rfl
  | false =>
      simp only [separated, hItem, List.cons_append,
        List.append_assoc, nextMember]
      rw [skipBlank_cons (by decide)]
      change Except.ok (some (skipBlank (c :: _))) = _
      rw [skipBlank_cons hBlank]

/- Members are read one after the other, up to the end. -/
theorem members_separated
    {fields : Fields σ α}
    {state last : σ}
    {entries : List (String × String)}
    (hCollects : fields.Collects state entries last)
    {fuel : Nat}
    (hFuel : entries.length < fuel)
    (isFirst : Bool)
    (rest : List Char) :
    members fields fuel isFirst state
        (separated isFirst (entries.map Writer.member) ++
          '\x7d' :: rest) =
      .ok (last, '\x7d' :: rest) := by
  induction hCollects generalizing fuel isFirst with
  | done state =>
      cases fuel with
      | zero => cases hFuel
      | succ fuel => rfl
  | @next state middle last entry entries hTakes _ ih =>
      cases fuel with
      | zero => cases hFuel
      | succ fuel =>
          have hMember :=
            hTakes _
              (endsValue_separated
                (endsValue_cons (Or.inr (Or.inr rfl)) rest)
                (entries.map Writer.member))
          have hRest :=
            ih (Nat.lt_of_succ_lt_succ hFuel) false
          simp only [members, List.map_cons,
            nextMember_separated (opensMarked_member entry),
            ok_bind, memberName_member, hMember]
          exact hRest

theorem record_object
    (name : String)
    (whole : Bool)
    (inArray : String → Items → Except Fault (α × Items))
    (fields : Fields σ α)
    (count : Nat)
    (rest : List Char) :
    record name whole inArray fields count ('\x7b' :: rest) =
      (do
        let (state, rest) ←
          members fields (rest.length + 1) true fields.start rest
        let value ← orFlawed (fields.finish state)
        return (value, ← objectEnd rest)) :=
  rfl

/- A record is read from the object that holds its fields. -/
theorem reads_record
    {fields : Fields σ α}
    {entries : List (String × String)}
    {value : α}
    (last : σ)
    (hCollects : fields.Collects fields.start entries last)
    (hFinish : fields.finish last = .ok value)
    (name : String)
    (whole : Bool)
    (inArray : String → Items → Except Fault (α × Items))
    (count : Nat) :
    (record name whole inArray fields count).Reads
      (Writer.object entries) value := by
  intro rest _
  have hOpens :
      ∀ item ∈ entries.map Writer.member, OpensMarked item :=
    List.forall_mem_map.mpr
      fun entry _ => opensMarked_member entry
  have hFuel :
      entries.length <
        (separated true (entries.map Writer.member) ++
          '\x7d' :: rest).length + 1 := by
    rw [← List.length_map Writer.member]
    exact length_lt_fuel hOpens _
  rw [toList_object, List.cons_append, List.append_assoc]
  simp only [record_object, List.singleton_append,
    members_separated hCollects hFuel, ok_bind, hFinish,
    orFlawed]
  rfl

end Decoder

end MarkupLowering.Json
