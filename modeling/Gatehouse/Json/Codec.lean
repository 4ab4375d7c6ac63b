import Gatehouse.Json.Mismatch

/-!
# Codecs

A codec reads a value of a type from JSON and writes it. The main statements
say of each codec that reading what it wrote gives the value back.
-/

namespace Gatehouse.Json

/-- How the values of a type are read and written. -/
structure Codec (α : Type) where
  read : Json → Except Mismatch α
  write : α → Json

namespace Codec

/-- Texts. -/
def text : Codec String where
  read
    | .string text => .ok text
    | json => .error (.type json "a string")
  write := .string

/-- Truth values. -/
def bool : Codec Bool where
  read
    | .bool value => .ok value
    | json => .error (.type json "a boolean")
  write := .bool

/-- Integers of 64 bits with a sign. -/
def int64 : Codec Int64 where
  read
    | .number (.integer value) =>
        if Int64.minValue.toInt ≤ value ∧ value ≤ Int64.maxValue.toInt then .ok (.ofInt value)
        else .error (.range (.int value) "i64")
    | json => .error (.type json "i64")
  write value := .int value.toInt

/-- Read items one after the other, up to the first mismatch. -/
def readAll {α : Type} (read : Json → Except Mismatch α) : List Json → Except Mismatch (List α)
  | [] => .ok []
  | item :: rest =>
      match read item with
      | .error mismatch => .error mismatch
      | .ok value =>
          match readAll read rest with
          | .error mismatch => .error mismatch
          | .ok values => .ok (value :: values)

/-- Arrays of values of one type. -/
def list {α : Type} (item : Codec α) : Codec (List α) where
  read
    | .array items => readAll item.read items
    | json => .error (.type json "a sequence")
  write values := .array (values.map item.write)

/-- Values that may be null. -/
def optional {α : Type} (value : Codec α) : Codec (Option α) where
  read
    | .null => .ok none
    | json => (value.read json).map some
  write
    | none => .null
    | some found => value.write found

/-- Values that are spelled in a text. -/
def spelled {α : Type} (parse : String → Except String α) (render : α → String)
    (expected : String) : Codec α where
  read
    | .string text => (parse text).mapError .spelling
    | json => .error (.type json expected)
  write value := .string (render value)

/-- Names of a closed set. A name may also stand as the one key of an object
whose value is null. -/
def named {α : Type} (ofName? : String → Option α) (name : α → String) : Codec α where
  read
    | .string text =>
        match ofName? text with
        | some value => .ok value
        | none => .error (.variant text)
    | .object [(key, payload)] =>
        match ofName? key with
        | none => .error (.variant key)
        | some value =>
            match payload with
            | .null => .ok value
            | json => .error (.type json "unit variant")
    | .object members => .error (.type (.object members) "map with a single key")
    | json => .error (.type json "string or map")
  write value := .string (name value)

/-- Values under another type, by a pair of maps. -/
def across {α β : Type} (codec : Codec α) (into : α → β) (back : β → α) : Codec β where
  read json := (codec.read json).map into
  write value := codec.write (back value)

@[simp] theorem read_write_text (value : String) : text.read (text.write value) = .ok value := rfl

@[simp] theorem read_write_bool (value : Bool) : bool.read (bool.write value) = .ok value := rfl

@[simp] theorem read_write_int64 (value : Int64) : int64.read (int64.write value) = .ok value := by
  simp only [int64, Json.int]
  have low := Int64.le_iff_toInt_le.1 (Int64.minValue_le value)
  have high := Int64.le_iff_toInt_le.1 (Int64.le_maxValue value)
  rw [if_pos ⟨low, high⟩, Int64.ofInt_toInt]

theorem readAll_map {α : Type} {codec : Codec α} {values : List α}
    (each : ∀ value ∈ values, codec.read (codec.write value) = .ok value) :
    readAll codec.read (values.map codec.write) = .ok values := by
  induction values with
  | nil => rfl
  | cons value rest ih =>
    have head := each value List.mem_cons_self
    have tail := ih fun other member => each other (List.mem_cons_of_mem _ member)
    simp [readAll, head, tail]

end Codec

end Gatehouse.Json
