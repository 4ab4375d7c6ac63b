import Gatehouse.Choice
import Gatehouse.Json.Value
import Gatehouse.Toml.Value

/-!
# Kinds of settings

The value of a setting comes from an entry of the settings file or from the
text of a variable, and is shown in JSON.
-/

namespace Gatehouse

/-- Why a text is no value of a setting. -/
inductive ValueFault where
  | noDigits
  | strayDigit
  | tooLarge
  | notFlag
  | unknownName (text : String)
  deriving DecidableEq, Repr

/-- The wording of a fault. -/
def ValueFault.message : ValueFault → String
  | .noDigits => "cannot parse integer from empty string"
  | .strayDigit => "invalid digit found in string"
  | .tooLarge => "number too large to fit in target type"
  | .notFlag => "provided string was not `true` or `false`"
  | .unknownName text => Choice.refusal text

/-- How the values of a setting are read and shown. -/
structure SettingKind (α : Type) where
  ofText : String → Except ValueFault α
  ofToml? : Toml → Option α
  toJson : α → Json

namespace SettingKind

/-- Read decimal digits behind a number that was read so far. What stands
behind the digit that makes the number too large is not looked at. -/
def readDigits (bound : Nat) : List Char → Fin bound → Except ValueFault (Fin bound)
  | [], value => .ok value
  | c :: rest, value =>
      if c.isDigit then
        let next := value.val * 10 + (c.toNat - 48)
        if fits : next < bound then readDigits bound rest ⟨next, fits⟩ else .error .tooLarge
      else .error .strayDigit

/-- Read a number below a bound, with or without a plus sign. -/
def readNumber (bound : Nat) (positive : 0 < bound) (text : List Char) :
    Except ValueFault (Fin bound) :=
  match text with
  | [] => .error .noDigits
  | ['+'] => .error .strayDigit
  | '+' :: digits => readDigits bound digits ⟨0, positive⟩
  | digits => readDigits bound digits ⟨0, positive⟩

/-- Whole numbers below a bound. -/
def number (bound : Nat) (positive : 0 < bound) : SettingKind (Fin bound) where
  ofText text := readNumber bound positive (trim text).toList
  ofToml? toml :=
    match toml with
    | .integer value =>
        if fits : 0 ≤ value ∧ value.toNat < bound then some ⟨value.toNat, fits.2⟩ else none
    | _ => none
  toJson value := .int value.val

/-- Texts, kept as they are. -/
def text : SettingKind String where
  ofText := .ok
  ofToml? := Toml.text?
  toJson := .string

/-- Truth values. -/
def flag : SettingKind Bool where
  ofText text :=
    let text := trim text
    if text = "true" then .ok true
    else if text = "false" then .ok false
    else .error .notFlag
  ofToml? := Toml.bool?
  toJson := .bool

/-- Values with names. -/
def named {α : Type} (choice : Choice α) : SettingKind α where
  ofText text :=
    match choice.ofText? text with
    | some value => .ok value
    | none => .error (.unknownName text)
  ofToml? := Toml.named? choice.ofName?
  toJson value := .string (choice.name value)

/-- Texts that may be missing; a variable of blanks takes the text away. -/
def optionalText : SettingKind (Option String) where
  ofText text := .ok (if (trim text).isEmpty then none else some text)
  ofToml? toml := toml.text?.map some
  toJson
    | some text => .string text
    | none => .null

end SettingKind

end Gatehouse
