import QuadraA.Lib.JsNumber

/-!
# Values of a language without types

What JavaScript makes of a value in a comparison, a sum, a text or a condition.

* `Primitive`, `JsObject`, `JsValue` — values, an object by what its conversions give;
* `MapKey` — what a `Map` compares of a value.

The two conversions between texts and numbers are the fields of `JsTexts`.
-/

namespace QuadraA.Lib

inductive Primitive where
  | undefined
  | null
  | bool (value : Bool)
  | number (value : JsNumber)
  | bigint (value : ℤ)
  | string (value : String)
deriving DecidableEq

/-- **An object**, by what its conversions give; a conversion that throws is `none`. -/
structure JsObject where
  address : ℕ
  /-- `ToPrimitive` with the hint `number`, with the hint `string`, and without one. -/
  asNumber : Option Primitive
  asString : Option Primitive
  asDefault : Option Primitive
  /-- The property `length` as a number would be read of it. -/
  length : Option Primitive
  /-- No `BigInt` is inside, so `JSON.stringify` does not throw. -/
  stringifies : Bool

inductive JsValue where
  | primitive (value : Primitive)
  | object (value : JsObject)

/-- `Number(text)` and `String(number)`. -/
structure JsTexts where
  stringToNumber : String → JsNumber
  numberToString : JsNumber → String

namespace JsValue

def undefined : JsValue := .primitive .undefined

def null : JsValue := .primitive .null

def number (x : JsNumber) : JsValue := .primitive (.number x)

def string (s : String) : JsValue := .primitive (.string s)

/-- The condition `if (value)`. -/
def truthy : JsValue → Bool
  | .primitive .undefined | .primitive .null => false
  | .primitive (.bool b) => b
  | .primitive (.number x) => decide (x ≠ .nan) && decide (x ≠ .finite 0)
  | .primitive (.bigint n) => decide (n ≠ 0)
  | .primitive (.string s) => decide (s ≠ "")
  | .object _ => true

/-- `ToPrimitive` with the hint `number`. -/
def toPrimitive : JsValue → Option Primitive
  | .primitive p => some p
  | .object o => o.asNumber

def toDefaultPrimitive : JsValue → Option Primitive
  | .primitive p => some p
  | .object o => o.asDefault

def toStringPrimitive : JsValue → Option Primitive
  | .primitive p => some p
  | .object o => o.asString

/-- `value.length`, read as a number; a primitive that is no text has no such property. -/
def length : JsValue → Option Primitive
  | .primitive (.string s) => some (.number (.finite s.length))
  | .primitive _ => some .undefined
  | .object o => o.length

def stringifies : JsValue → Bool
  | .primitive (.bigint _) => false
  | .primitive _ => true
  | .object o => o.stringifies

end JsValue

namespace Primitive

/-- The number that a comparison with a number takes of a primitive; a `BigInt` is compared as it
is. -/
def numeric (texts : JsTexts) : Primitive → JsNumber
  | undefined => .nan
  | null => .finite 0
  | bool b => .finite (if b then 1 else 0)
  | number x => x
  | bigint n => .finite n
  | string s => texts.stringToNumber s

/-- `left - right`, which throws for a `BigInt` and a number. -/
def subtract (texts : JsTexts) : Primitive → Primitive → Option Primitive
  | bigint left, bigint right => some (bigint (left - right))
  | bigint _, _ | _, bigint _ => none
  | left, right => some (number ((left.numeric texts).sub (right.numeric texts)))

def text (texts : JsTexts) : Primitive → String
  | undefined => "undefined"
  | null => "null"
  | bool b => if b then "true" else "false"
  | number x => texts.numberToString x
  | bigint n => toString n
  | string s => s

def isString : Primitive → Bool
  | string _ => true
  | _ => false

/-- `left + right`: the texts one after the other when one is a text, and else the sum. -/
def plus (texts : JsTexts) (left right : Primitive) : Option Primitive :=
  if left.isString || right.isString then some (string (left.text texts ++ right.text texts))
  else
    match left, right with
    | bigint left, bigint right => some (bigint (left + right))
    | bigint _, _ | _, bigint _ => none
    | left, right => some (number ((left.numeric texts).add (right.numeric texts)))

/-- `value / n` for a number `n` that is not zero. -/
def divCount (texts : JsTexts) (value : Primitive) (n : ℕ) : Option JsNumber :=
  match value with
  | bigint _ => none
  | value => some ((value.numeric texts).divCount n)

end Primitive

namespace JsValue

/-- `value < x`. -/
def isLess (texts : JsTexts) (value : JsValue) (x : JsNumber) : Option Bool :=
  value.toPrimitive.map fun p => (p.numeric texts).lt x

/-- `value > x`. -/
def isGreater (texts : JsTexts) (value : JsValue) (x : JsNumber) : Option Bool :=
  value.toPrimitive.map fun p => x.lt (p.numeric texts)

/-- `String(value)`, as in a template. -/
def text (texts : JsTexts) (value : JsValue) : Option String :=
  value.toStringPrimitive.map fun p => p.text texts

/-- `value - other`. -/
def minus (texts : JsTexts) (value other : JsValue) : Option Primitive :=
  value.toPrimitive.bind fun p => other.toPrimitive.bind fun q => p.subtract texts q

end JsValue

/-- What a `Map` compares of a key: a primitive, or the address of an object. -/
inductive MapKey where
  | primitive (value : Primitive)
  | object (address : ℕ)
deriving DecidableEq

def JsValue.mapKey : JsValue → MapKey
  | .primitive p => .primitive p
  | .object o => .object o.address

end QuadraA.Lib
