import QuadraA.Lib.Json
import QuadraA.Lib.Utf8

/-!
# Reading JSON, one character at a time

A JSON text is read by a machine with a stack of the arrays and objects that are open.

* `ParserState`, `ParserState.step` — the machine and what a character does;
* `parse_append` — a text that begins that of an object, and is JSON itself, is that text up to
  blanks.

A string is the list of its UTF-16 code units, and a number the text of its literal; the members of
an object are all in the order of the text.
-/

namespace QuadraA.Lib

abbrev JsonTree := Json (List ℕ) (List Char)

/-- The members of an object that is open, the latest first. -/
abbrev OpenMembers := List (List ℕ × JsonTree)

/-- An array or an object around the value that is being read. -/
inductive ParserFrame where
  | items (done : List JsonTree)
  | members (done : OpenMembers) (key : List ℕ)

inductive NumberPart where
  | minus
  | zero
  | digits
  | point
  | fraction
  | exponent
  | exponentSign
  | exponentDigits

/-- What the machine is reading; a string with members is the key of the next one. -/
inductive ParserMode where
  | value
  | firstItem
  | key (first : Bool) (done : OpenMembers)
  | colon (done : OpenMembers) (key : List ℕ)
  | string (done : Option OpenMembers) (units : List ℕ)
  | escape (done : Option OpenMembers) (units : List ℕ)
  | hex (done : Option OpenMembers) (units : List ℕ) (count unit : ℕ)
  | literal (rest : List Char) (value : JsonTree)
  | number (part : NumberPart) (text : List Char)
  | after (value : JsonTree)

structure ParserState where
  stack : List ParserFrame
  mode : ParserMode

def isBlank (c : Char) : Bool := c = ' ' || c = '\t' || c = '\n' || c = '\r'

def hexDigit? (c : Char) : Option ℕ :=
  if '0' ≤ c ∧ c ≤ '9' then some (c.toNat - 48)
  else if 'a' ≤ c ∧ c ≤ 'f' then some (c.toNat - 87)
  else if 'A' ≤ c ∧ c ≤ 'F' then some (c.toNat - 55)
  else none

/-- The unit that an escape of one character stands for. -/
def escapeUnit? (c : Char) : Option ℕ :=
  if c = '"' ∨ c = '\\' ∨ c = '/' then some c.toNat
  else if c = 'b' then some 8
  else if c = 'f' then some 12
  else if c = 'n' then some 10
  else if c = 'r' then some 13
  else if c = 't' then some 9
  else none

def NumberPart.isEnd : NumberPart → Bool
  | .zero | .digits | .fraction | .exponentDigits => true
  | _ => false

/-- The part of a number that a character belongs to. -/
def NumberPart.next (part : NumberPart) (c : Char) : Option NumberPart :=
  match part with
  | .minus => if c = '0' then some .zero else if c.isDigit then some .digits else none
  | .zero =>
      if c = '.' then some .point else if c = 'e' ∨ c = 'E' then some .exponent else none
  | .digits =>
      if c.isDigit then some .digits
      else if c = '.' then some .point
      else if c = 'e' ∨ c = 'E' then some .exponent
      else none
  | .point => if c.isDigit then some .fraction else none
  | .fraction =>
      if c.isDigit then some .fraction
      else if c = 'e' ∨ c = 'E' then some .exponent
      else none
  | .exponent =>
      if c.isDigit then some .exponentDigits
      else if c = '+' ∨ c = '-' then some .exponentSign
      else none
  | .exponentSign => if c.isDigit then some .exponentDigits else none
  | .exponentDigits => if c.isDigit then some .exponentDigits else none

/-- The first character of a value. -/
def beginValue (stack : List ParserFrame) (c : Char) : Option ParserState :=
  if c = '"' then some ⟨stack, .string none []⟩
  else if c = '[' then some ⟨.items [] :: stack, .firstItem⟩
  else if c = '{' then some ⟨stack, .key true []⟩
  else if c = 'n' then some ⟨stack, .literal ['u', 'l', 'l'] .null⟩
  else if c = 't' then some ⟨stack, .literal ['r', 'u', 'e'] (.bool true)⟩
  else if c = 'f' then some ⟨stack, .literal ['a', 'l', 's', 'e'] (.bool false)⟩
  else if c = '-' then some ⟨stack, .number .minus [c]⟩
  else if c = '0' then some ⟨stack, .number .zero [c]⟩
  else if c.isDigit then some ⟨stack, .number .digits [c]⟩
  else none

/-- A character behind a value. -/
def afterValue (stack : List ParserFrame) (value : JsonTree) (c : Char) : Option ParserState :=
  if isBlank c then some ⟨stack, .after value⟩
  else
    match stack with
    | [] => none
    | .items done :: stack =>
        if c = ',' then some ⟨.items (value :: done) :: stack, .value⟩
        else if c = ']' then some ⟨stack, .after (.array (value :: done).reverse)⟩
        else none
    | .members done key :: stack =>
        if c = ',' then some ⟨stack, .key false ((key, value) :: done)⟩
        else if c = '}' then some ⟨stack, .after (.object ((key, value) :: done).reverse)⟩
        else none

/-- The end of a string. -/
def endString (stack : List ParserFrame) (done : Option OpenMembers) (units : List ℕ) :
    ParserState :=
  match done with
  | none => ⟨stack, .after (.string units)⟩
  | some done => ⟨stack, .colon done units⟩

/-- **What a character does.** -/
def ParserState.step (s : ParserState) (c : Char) : Option ParserState :=
  match s.mode with
  | .value => if isBlank c then some s else beginValue s.stack c
  | .firstItem =>
      if isBlank c then some s
      else if c = ']' then some ⟨s.stack.tail, .after (.array [])⟩
      else beginValue s.stack c
  | .key first done =>
      if isBlank c then some s
      else if c = '"' then some ⟨s.stack, .string (some done) []⟩
      else if c = '}' ∧ first = true then some ⟨s.stack, .after (.object [])⟩
      else none
  | .colon done key =>
      if isBlank c then some s
      else if c = ':' then some ⟨.members done key :: s.stack, .value⟩
      else none
  | .string done units =>
      if c = '"' then some (endString s.stack done units)
      else if c = '\\' then some ⟨s.stack, .escape done units⟩
      else if c.toNat < 32 then none
      else some ⟨s.stack, .string done (units ++ utf16Units c)⟩
  | .escape done units =>
      if c = 'u' then some ⟨s.stack, .hex done units 0 0⟩
      else (escapeUnit? c).map fun unit => ⟨s.stack, .string done (units ++ [unit])⟩
  | .hex done units count unit =>
      (hexDigit? c).map fun digit =>
        if count = 3 then ⟨s.stack, .string done (units ++ [unit * 16 + digit])⟩
        else ⟨s.stack, .hex done units (count + 1) (unit * 16 + digit)⟩
  | .literal rest value =>
      match rest with
      | [] => afterValue s.stack value c
      | expected :: rest =>
          if c = expected then
            some ⟨s.stack, if rest = [] then .after value else .literal rest value⟩
          else none
  | .number part text =>
      match part.next c with
      | some part => some ⟨s.stack, .number part (text ++ [c])⟩
      | none => if part.isEnd then afterValue s.stack (.number text) c else none
  | .after value => afterValue s.stack value c

def ParserState.run (s : ParserState) : List Char → Option ParserState
  | [] => some s
  | c :: text => (s.step c).bind fun s => s.run text

/-- The value at the end of a text. -/
def ParserState.finish (s : ParserState) : Option JsonTree :=
  match s.stack, s.mode with
  | [], .after value => some value
  | [], .number part text => if part.isEnd then some (.number text) else none
  | _, _ => none

/-- **The value of a text**, `none` if it is not JSON. -/
def parseJson (text : List Char) : Option JsonTree :=
  (ParserState.run ⟨[], .value⟩ text).bind ParserState.finish

example : parseJson "\x7b\"a\": [1.5e3, \"\\u00e9\"], \"b\": \x7b\x7d\x7d ".toList
    = some (.object [([97], .array [.number "1.5e3".toList, .string [233]]),
        ([98], .object [])]) := by
  rfl

/-! ### A text behind another one -/

theorem ParserState.run_append (s : ParserState) (text text' : List Char) :
    s.run (text ++ text') = (s.run text).bind fun s => s.run text' := by
  induction text generalizing s with
  | nil => rfl
  | cons c text ih =>
    rw [List.cons_append, ParserState.run, ParserState.run]
    cases s.step c with
    | none => rfl
    | some next => exact ih next

/-- **Behind a whole value** there are only blanks. -/
theorem run_after {value : JsonTree} {text : List Char} {s : ParserState}
    (h : ParserState.run ⟨[], .after value⟩ text = some s) :
    s = ⟨[], .after value⟩ ∧ ∀ c ∈ text, isBlank c = true := by
  induction text with
  | nil =>
    refine ⟨(Option.some.inj h).symm, fun c hc => ?_⟩
    cases hc
  | cons c text ih =>
    rw [ParserState.run, ParserState.step] at h
    dsimp only at h
    rw [afterValue] at h
    cases hblank : isBlank c with
    | true =>
      rw [hblank, if_pos rfl] at h
      obtain ⟨hs, hrest⟩ := ih h
      exact ⟨hs, List.forall_mem_cons.mpr ⟨hblank, hrest⟩⟩
    | false =>
      rw [hblank, if_neg Bool.false_ne_true] at h
      cases h

/-- **Behind the digits of a number** there is no object. -/
theorem finish_number {part : NumberPart} {digits text : List Char} {s : ParserState}
    (h : ParserState.run ⟨[], .number part digits⟩ text = some s) :
    ∀ members, s.finish ≠ some (.object members) := by
  induction text generalizing part digits with
  | nil =>
    rw [← Option.some.inj h]
    intro members hfinish
    rw [ParserState.finish] at hfinish
    dsimp only at hfinish
    split at hfinish <;> cases hfinish
  | cons c text ih =>
    rw [ParserState.run, ParserState.step] at h
    dsimp only at h
    split at h
    · exact ih h
    · split at h
      · rw [afterValue] at h
        split at h
        · rw [(run_after h).1]
          intro members hfinish
          cases hfinish
        · cases h
      · cases h

/-- **What is JSON, and begins the text of an object**, is that text up to blanks. -/
theorem parse_append {text rest : List Char} {value : JsonTree}
    {members : List (List ℕ × JsonTree)} (hvalue : parseJson text = some value)
    (hobject : parseJson (text ++ rest) = some (.object members)) :
    value = .object members ∧ ∀ c ∈ rest, isBlank c = true := by
  rw [parseJson, Option.bind_eq_some_iff] at hvalue hobject
  obtain ⟨s, hrun, hfinish⟩ := hvalue
  obtain ⟨s', hrun', hfinish'⟩ := hobject
  rw [ParserState.run_append, hrun, Option.bind_some] at hrun'
  obtain ⟨stack, mode⟩ := s
  rw [ParserState.finish] at hfinish
  split at hfinish
  · rename_i hstack hmode
    dsimp only at hstack hmode
    subst hstack hmode
    obtain ⟨rfl, hblank⟩ := run_after hrun'
    rw [← Option.some.inj hfinish]
    exact ⟨Option.some.inj hfinish', hblank⟩
  · rename_i hstack hmode
    dsimp only at hstack hmode
    subst hstack hmode
    exact absurd hfinish' (finish_number hrun' members)
  · cases hfinish

/-- A text of blanks, and of characters that begin no value, is not JSON. -/
theorem parse_blank {text : List Char}
    (h : ∀ c ∈ text, isBlank c = true ∨ beginValue [] c = none) : parseJson text = none := by
  have hrun : ∀ s, ParserState.run ⟨[], .value⟩ text = some s → s = ⟨[], .value⟩ := by
    induction text with
    | nil =>
      intro s hs
      exact (Option.some.inj hs).symm
    | cons c text ih =>
      intro s hs
      rw [List.forall_mem_cons] at h
      rw [ParserState.run, ParserState.step] at hs
      dsimp only at hs
      split at hs
      · exact ih h.2 s hs
      · rcases h.1 with hblank | hnone
        · contradiction
        · rw [hnone] at hs
          cases hs
  rw [parseJson]
  cases hs : ParserState.run ⟨[], .value⟩ text with
  | none => rfl
  | some s =>
    rw [hrun s hs]
    rfl

end QuadraA.Lib
