import Mathlib.Tactic

namespace VoiceCall.Foundation

/-- The conversions throw a `TypeError` for a missing method or a missing primitive value. -/
inductive JsError where
  | notAFunction
  | cannotConvertToPrimitive
deriving DecidableEq, Repr

/-- A network value is a JSON value, and a missing argument is `undefined`.
A number is given by the text that `Number.prototype.toString` prints for it. -/
inductive JsValue where
  | undefined
  | null
  | boolean (value : Bool)
  | number (text : String)
  | string (text : String)
  | array (elements : List JsValue)
  | object (properties : List (String × JsValue))
deriving Repr

namespace JsValue

/-- The falsy values are `undefined`, `null`, `false`, zero and the empty string. -/
def truthy : JsValue → Bool
  | .undefined => false
  | .null => false
  | .boolean value => value
  | .number text => text != "0"
  | .string text => text != ""
  | .array _ => true
  | .object _ => true

/-- `String.prototype.trim` removes white space and line terminators. -/
def isWhiteSpace (char : Char) : Bool :=
  char.toNat ∈ [0x9, 0xA, 0xB, 0xC, 0xD, 0x20, 0xA0, 0x1680, 0x2028, 0x2029, 0x202F, 0x205F,
    0x3000, 0xFEFF] || (0x2000 ≤ char.toNat && char.toNat ≤ 0x200A)

def trimmed (text : String) : String :=
  String.ofList ((text.toList.dropWhile isWhiteSpace).reverse.dropWhile isWhiteSpace).reverse

/-- A call of `trim` throws on every value that inherits no such method. -/
def trim : JsValue → Except JsError String
  | .string text => .ok (trimmed text)
  | _ => .error .notAFunction

mutual

/-- An own `toString` member of a JSON object is never callable and hides the inherited one,
and the inherited `valueOf` gives the object back. -/
def toText : JsValue → Except JsError String
  | .undefined => .ok "undefined"
  | .null => .ok "null"
  | .boolean value => .ok (if value then "true" else "false")
  | .number text => .ok text
  | .string text => .ok text
  | .array elements => (joinTexts elements).map fun texts => ",".intercalate texts
  | .object properties =>
      if properties.any (fun property => property.1 == "toString") then
        .error .cannotConvertToPrimitive
      else .ok "[object Object]"

/-- `Array.prototype.join` writes nothing for `null` and `undefined`. -/
def joinTexts : List JsValue → Except JsError (List String)
  | [] => .ok []
  | element :: rest =>
      let text : Except JsError String := match element with
        | .undefined => .ok ""
        | .null => .ok ""
        | _ => toText element
      text.bind fun text => (joinTexts rest).map fun texts => text :: texts

end

/-- A string is its own property key. -/
@[simp] theorem toText_string (text : String) : toText (.string text) = .ok text := rfl

mutual

/-- A value has a text unless some object in it, reached through arrays, hides `toString`. -/
def hasText : JsValue → Bool
  | .array elements => allHaveText elements
  | .object properties => !properties.any fun property => property.1 == "toString"
  | _ => true

def allHaveText : List JsValue → Bool
  | [] => true
  | element :: rest => hasText element && allHaveText rest

end

mutual

/-- The conversion throws exactly on the values that have no text. -/
theorem isOk_toText (value : JsValue) : (toText value).isOk = value.hasText := by
  cases value with
  | undefined => rfl
  | null => rfl
  | boolean _ => rfl
  | number _ => rfl
  | string _ => rfl
  | array elements =>
      rw [toText, hasText, ← isOk_joinTexts elements]
      cases joinTexts elements <;> rfl
  | object properties =>
      rw [toText, hasText]
      split
      · next hidden => simp [hidden, Except.isOk, Except.toBool]
      · next inherited => simp [inherited, Except.isOk, Except.toBool]

theorem isOk_joinTexts (elements : List JsValue) :
    (joinTexts elements).isOk = allHaveText elements := by
  cases elements with
  | nil => rfl
  | cons element rest =>
      have ofRest := isOk_joinTexts rest
      have joined (text : Except JsError String) :
          (text.bind fun text => (joinTexts rest).map fun texts => text :: texts).isOk =
            (text.isOk && allHaveText rest) := by
        rw [← ofRest]
        cases text with
        | error _ => rfl
        | ok text => cases joinTexts rest <;> rfl
      rw [allHaveText, ← isOk_toText element]
      cases element with
      | undefined => exact joined (.ok "")
      | null => exact joined (.ok "")
      | boolean value => exact joined (toText (.boolean value))
      | number text => exact joined (toText (.number text))
      | string text => exact joined (toText (.string text))
      | array elements => exact joined (toText (.array elements))
      | object properties => exact joined (toText (.object properties))

end

end JsValue
end VoiceCall.Foundation
