import MarkupLowering.Json.Fault
import MarkupLowering.Text.Quoted

/-
  This file reads records from JSON text.  The text is read
  from the front, and the first fault in it is reported,
  whether the text is malformed there or holds a value that
  does not belong there.

  A record is an object or the array of its fields in order.
  Members of an object that are not fields are skipped.

  Key definitions include:
    * `Json.Decoder`
    * `Json.skipValue`
    * `Json.Decoder.text`
    * `Json.Decoder.boolean`
    * `Json.Decoder.natural`
    * `Json.Decoder.optional`
    * `Json.Decoder.list`
    * `Json.Decoder.variant`
    * `Json.Decoder.record`
    * `Json.Decoder.run`
-/

namespace MarkupLowering.Json

------------------------------------------------------------
-- Lexical Elements
------------------------------------------------------------

/- Blanks of JSON text. -/
def isBlank (c : Char) : Bool :=
  c == ' ' || c == '\n' || c == '\t' || c == '\r'

/- The text from its first character that is not blank. -/
def skipBlank (cs : List Char) : List Char :=
  cs.dropWhile isBlank

/- What follows a word at the front. -/
def afterWord : List Char → List Char → Option (List Char)
  | [], cs => some cs
  | _ :: _, [] => none
  | w :: word, c :: cs => if w = c then afterWord word cs else none

/- What follows a string whose opening quote was read. -/
def skipText : List Char → Option (List Char)
  | [] => none
  | c :: rest =>
      if c = '"' then
        some rest
      else if c = '\\' then
        match rest with
        | 'u' :: a :: b :: c :: d :: rest =>
            if (Text.Quoted.hexValue4? a b c d).isSome then
              skipText rest
            else
              none
        | e :: rest =>
            if (Text.Quoted.shortEscape? e).isSome then
              skipText rest
            else
              none
        | [] => none
      else if c.toNat < 0x20 then
        none
      else
        skipText rest

/- What follows a number at the front, whatever its size. -/
def skipNumber (cs : List Char) : Option (List Char) :=
  let unsigned := match cs with
    | '-' :: rest => rest
    | cs => cs
  match Number.spanDigits unsigned with
  | ([], _) => none
  | ('0' :: _ :: _, _) => none
  | (_, rest) =>
      match Number.readFraction rest with
      | none => none
      | some (_, rest) => (Number.readExponent rest).map Prod.snd

/- The characters after a member name and its colon. -/
def skipName (cs : List Char) : Option (List Char) :=
  match cs with
  | '"' :: rest =>
      match skipText rest with
      | none => none
      | some rest =>
          match skipBlank rest with
          | ':' :: rest => some rest
          | _ => none
  | _ => none

mutual

/-
  What follows the value at the front.  The fuel bounds the
  number of values and of list ends that are passed.
-/
def skipValue : (fuel : Nat) → List Char → Option (List Char)
  | 0, _ => none
  | fuel + 1, cs =>
      match skipBlank cs with
      | [] => none
      | '"' :: rest => skipText rest
      | '[' :: rest =>
          match skipBlank rest with
          | ']' :: rest => some rest
          | rest => skipItems fuel rest
      | c :: rest =>
          if c = Char.ofNat 0x7B then
            match skipBlank rest with
            | [] => none
            | d :: rest =>
                if d = Char.ofNat 0x7D then
                  some rest
                else
                  skipMembers fuel (d :: rest)
          else if c = 't' then
            afterWord "rue".toList rest
          else if c = 'f' then
            afterWord "alse".toList rest
          else if c = 'n' then
            afterWord "ull".toList rest
          else
            skipNumber (c :: rest)

/- What follows the items of an array. -/
def skipItems : (fuel : Nat) → List Char → Option (List Char)
  | 0, _ => none
  | fuel + 1, cs =>
      match skipValue fuel cs with
      | none => none
      | some rest =>
          match skipBlank rest with
          | ']' :: rest => some rest
          | ',' :: rest => skipItems fuel rest
          | _ => none

/- What follows the members of an object. -/
def skipMembers : (fuel : Nat) → List Char → Option (List Char)
  | 0, _ => none
  | fuel + 1, cs =>
      match skipName (skipBlank cs) with
      | none => none
      | some rest =>
          match skipValue fuel rest with
          | none => none
          | some rest =>
              match skipBlank rest with
              | [] => none
              | c :: rest =>
                  if c = Char.ofNat 0x7D then
                    some rest
                  else if c = ',' then
                    skipMembers fuel rest
                  else
                    none

end

------------------------------------------------------------
-- Decoders
------------------------------------------------------------

/- A reader of a value at the front of a text. -/
def Decoder (α : Type) :=
  List Char → Except Fault (α × List Char)

namespace Decoder

variable {α β σ : Type}

/- The result of a reading that fails only on malformed text. -/
def orMalformed : Option α → Except Fault α
  | some a => .ok a
  | none => .error .malformed

/- The fault of a value at the front that does not belong there. -/
def unexpected
    (expected : String)
    (cs : List Char) : Fault :=
  let found (value? : Option Found) : Fault :=
    match value? with
    | some value => .flawed (.invalidType value expected)
    | none => .malformed
  match cs with
  | [] => .malformed
  | '"' :: rest =>
      found
        ((Text.Quoted.readBody rest).map fun result =>
          .text (String.ofList result.1))
  | '[' :: _ => found (some .sequence)
  | c :: rest =>
      if c = Char.ofNat 0x7B then
        found (some .map)
      else if c = 'n' then
        found ((afterWord "ull".toList rest).map fun _ => .null)
      else if c = 't' then
        found
          ((afterWord "rue".toList rest).map fun _ =>
            .boolean true)
      else if c = 'f' then
        found
          ((afterWord "alse".toList rest).map fun _ =>
            .boolean false)
      else if c = '-' ∨ c.isDigit then
        found
          ((Number.read (c :: rest)).map fun result =>
            .number result.1)
      else
        .malformed

/- Pass a value, whatever it is. -/
def anything : Decoder Unit := fun cs =>
  match skipValue (2 * cs.length + 2) cs with
  | some rest => .ok ((), rest)
  | none => .error .malformed

/- A string, told as the given words when it is missing. -/
def textAs (expected : String) : Decoder String := fun cs =>
  match skipBlank cs with
  | '"' :: rest => do
      let (value, rest) ← orMalformed (Text.Quoted.readBody rest)
      return (String.ofList value, rest)
  | rest => .error (unexpected expected rest)

/- A string. -/
def text : Decoder String :=
  textAs "a string"

/- A truth value. -/
def boolean : Decoder Bool := fun cs =>
  match skipBlank cs with
  | 't' :: rest => do
      return (true, ← orMalformed (afterWord "rue".toList rest))
  | 'f' :: rest => do
      return (false, ← orMalformed (afterWord "alse".toList rest))
  | rest => .error (unexpected "a boolean" rest)

/- A natural number below a bound. -/
def natural
    (kind : String)
    (bound : Nat) : Decoder Nat := fun cs =>
  let cs := skipBlank cs
  match cs with
  | [] => .error .malformed
  | c :: _ =>
      if c = '-' ∨ c.isDigit then do
        let (number, rest) ← orMalformed (Number.read cs)
        match number with
        | .natural value =>
            if value < bound then
              return (value, rest)
            else
              throw (.flawed (.invalidValue (.number number) kind))
        | .negative _ =>
            throw (.flawed (.invalidValue (.number number) kind))
        | .real _ _ =>
            throw (.flawed (.invalidType (.number number) kind))
      else
        .error (unexpected kind cs)

/- Read a value and give what it stands for. -/
def map
    (f : α → β)
    (decoder : Decoder α) : Decoder β := fun cs => do
  let (value, rest) ← decoder cs
  return (f value, rest)

/- The value null. -/
def unit : Decoder Unit := fun cs =>
  match skipBlank cs with
  | 'n' :: rest => do
      return ((), ← orMalformed (afterWord "ull".toList rest))
  | rest => .error (unexpected "unit" rest)

/- A value or null. -/
def optional (value : Decoder α) : Decoder (Option α) := fun cs =>
  match skipBlank cs with
  | 'n' :: rest => do
      return (none, ← orMalformed (afterWord "ull".toList rest))
  | rest => do
      let (value, rest) ← value rest
      return (some value, rest)

------------------------------------------------------------
-- Arrays
------------------------------------------------------------

/-
  The text of the next item of an array, or nothing at its
  end.
-/
def nextItem
    (isFirst : Bool)
    (cs : List Char) : Except Fault (Option (List Char)) :=
  match skipBlank cs with
  | [] => .error .malformed
  | c :: rest =>
      if c = ']' then
        .ok none
      else if isFirst then
        .ok (some (c :: rest))
      else if c = ',' then
        match skipBlank rest with
        | [] => .error .malformed
        | ']' :: _ => .error .malformed
        | rest => .ok (some rest)
      else
        .error .malformed

/- The items of an array, up to its end. -/
def items (item : Decoder α) :
    (fuel : Nat) → (isFirst : Bool) → Decoder (List α)
  | 0, _, _ => .error .malformed
  | fuel + 1, isFirst, cs => do
      match ← nextItem isFirst cs with
      | none => return ([], cs)
      | some rest =>
          let (value, rest) ← item rest
          let (values, rest) ← items item fuel false rest
          return (value :: values, rest)

/- The end of an array. -/
def arrayEnd (cs : List Char) : Except Fault (List Char) :=
  match skipBlank cs with
  | ']' :: rest => .ok rest
  | _ => .error .malformed

/- An array. -/
def list (item : Decoder α) : Decoder (List α) := fun cs =>
  match skipBlank cs with
  | '[' :: rest => do
      let (values, rest) ← items item (rest.length + 1) true rest
      return (values, ← arrayEnd rest)
  | rest => .error (unexpected "a sequence" rest)

------------------------------------------------------------
-- Objects
------------------------------------------------------------

/-
  The text of the next member of an object, or nothing at its
  end.
-/
def nextMember
    (isFirst : Bool)
    (cs : List Char) : Except Fault (Option (List Char)) :=
  match skipBlank cs with
  | [] => .error .malformed
  | c :: rest =>
      if c = Char.ofNat 0x7D then
        .ok none
      else if isFirst then
        .ok (some (c :: rest))
      else if c = ',' then
        .ok (some (skipBlank rest))
      else
        .error .malformed

/- The name of a member, without its colon. -/
def memberName : Decoder String := fun cs =>
  match cs with
  | '"' :: rest => do
      let (name, rest) ← orMalformed (Text.Quoted.readBody rest)
      return (String.ofList name, rest)
  | _ => .error .malformed

/- The value of a member, after a colon. -/
def memberValue (value : Decoder α) : Decoder α := fun cs =>
  match skipBlank cs with
  | ':' :: rest => value rest
  | _ => .error .malformed

/-
  How the fields of a record are collected: what to do with a
  member, and how to make the record in the end.
-/
structure Fields (σ α : Type) where
  start : σ
  member : σ → String → Decoder σ
  finish : σ → Except Flaw α

/- The members of an object, up to its end. -/
def members (fields : Fields σ α) :
    (fuel : Nat) → (isFirst : Bool) → σ → Decoder σ
  | 0, _, _, _ => .error .malformed
  | fuel + 1, isFirst, state, cs => do
      match ← nextMember isFirst cs with
      | none => return (state, cs)
      | some rest =>
          let (name, rest) ← memberName rest
          let (state, rest) ← fields.member state name rest
          members fields fuel false state rest

/- The result of a step that fails only on a flaw. -/
def orFlawed : Except Flaw α → Except Fault α
  | .ok a => .ok a
  | .error flaw => .error (.flawed flaw)

/- The end of an object. -/
def objectEnd (cs : List Char) : Except Fault (List Char) :=
  match skipBlank cs with
  | c :: rest =>
      if c = Char.ofNat 0x7D then
        .ok rest
      else
        .error .malformed
  | [] => .error .malformed

/- A field that a member gives for the first time. -/
def once
    (name : String)
    (present : Option β)
    (value : Decoder β) : Decoder β := fun cs =>
  match present with
  | some _ => .error (.flawed (.duplicateField name))
  | none => memberValue value cs

/- A field that must be present. -/
def required
    (name : String) : Option β → Except Flaw β
  | some value => .ok value
  | none => .error (.missingField name)

------------------------------------------------------------
-- Records
------------------------------------------------------------

/-
  A record in an array: each field is the next item.  The
  position counts the fields before it.
-/
structure Items where
  position : Nat
  rest : List Char

/- The next field of a record in an array, if there is one. -/
def Items.next?
    (state : Items)
    (value : Decoder β) : Except Fault (Option β × Items) := do
  match ← nextItem (state.position == 0) state.rest with
  | none => return (none, state)
  | some rest =>
      let (value, rest) ← value rest
      return (some value, ⟨state.position + 1, rest⟩)

/- The next field of a record in an array. -/
def Items.next
    (expected : String)
    (state : Items)
    (value : Decoder β) : Except Fault (β × Items) := do
  match ← state.next? value with
  | (some value, state) => return (value, state)
  | (none, state) =>
      throw (.flawed (.invalidLength state.position expected))

/-
  A record of a name with some number of fields.  Text that
  is known to be a whole document is checked for items too
  many; in other text they are malformed.
-/
def record
    (name : String)
    (whole : Bool)
    (inArray : String → Items → Except Fault (α × Items))
    (fields : Fields σ α)
    (count : Nat) : Decoder α := fun cs =>
  let kind := "struct " ++ name
  match skipBlank cs with
  | '[' :: rest => do
      let expected := kind ++ " with " ++ toString count ++ " elements"
      let (value, state) ← inArray expected ⟨0, rest⟩
      match skipBlank state.rest with
      | ']' :: rest => return (value, rest)
      | rest =>
          if whole then
            let (extra, _) ← items anything (rest.length + 1) false rest
            throw (.flawed (.invalidLength (state.position + extra.length)
              "fewer elements in array"))
          else
            throw .malformed
  | c :: rest =>
      if c = Char.ofNat 0x7B then do
        let (state, rest) ←
          members fields (rest.length + 1) true fields.start rest
        let value ← orFlawed (fields.finish state)
        return (value, ← objectEnd rest)
      else
        .error (unexpected kind (c :: rest))
  | [] => .error .malformed

/-
  One of a list of names, given as a string or as an object
  that has the name as its only member, with the value null.
-/
def variant
    (whole : Bool)
    (names : List (String × α)) : Decoder α := fun cs =>
  let named (name : String) : Except Fault α :=
    match names.lookup name with
    | some value => .ok value
    | none => .error (.flawed (.unknownVariant name (names.map Prod.fst)))
  match skipBlank cs with
  | '"' :: rest => do
      let (name, rest) ← orMalformed (Text.Quoted.readBody rest)
      return (← named (String.ofList name), rest)
  | c :: rest =>
      if c = Char.ofNat 0x7B then do
        if whole then
          let counting : Fields Nat Nat :=
            ⟨0, fun count _ cs => do
              let (_, rest) ← memberValue anything cs
              return (count + 1, rest), .ok⟩
          let (count, _) ← members counting (rest.length + 1) true 0 rest
          if count ≠ 1 then
            throw (.flawed (.invalidValue .map "map with a single key"))
        let (name, rest) ← textAs "variant identifier" rest
        let value ← named name
        let (_, rest) ← memberValue unit rest
        return (value, ← objectEnd rest)
      else if whole then
        .error (unexpected "string or map" (c :: rest))
      else
        .error .malformed
  | [] => .error .malformed

------------------------------------------------------------
-- Documents
------------------------------------------------------------

/- Read a text that holds one value and nothing else. -/
def run
    (decoder : Decoder α)
    (text : String) : Except Fault α := do
  let (value, rest) ← decoder text.toList
  match skipBlank rest with
  | [] => return value
  | _ => throw .malformed

end Decoder

end MarkupLowering.Json
