import Navi.Base.Dict
import Navi.Base.JsonText

/-!
# The schema validator

What `json_schema_errors` finds wrong with a value. A schema is a JSON value; only its dictionaries
say anything. The recursion follows the schema, so that its depth is enough fuel.
-/

namespace Navi.Schema

open Navi.Base

/-! ## Equality -/

mutual

/-- `a == b`, of values that were read from JSON: a truth value is a number. -/
def pyEq : Json → Json → Bool
  | .null, .null => true
  | .str s, .str t => s = t
  | .arr xs, .arr ys => pyEqItems xs ys
  | .obj d, .obj e => d.length = e.length && pyEqEntries d e
  | .bool a, .bool b => a = b
  | .bool a, .int n => n = if a then 1 else 0
  | .bool a, .float x => x = if a then 1 else 0
  | .int m, .bool b => m = if b then 1 else 0
  | .int m, .int n => m = n
  | .int m, .float x => x = m
  | .float x, .bool b => x = if b then 1 else 0
  | .float x, .int n => x = n
  | .float x, .float y => x = y
  | _, _ => false

/-- The items are equal in their order. -/
def pyEqItems : List Json → List Json → Bool
  | [], [] => true
  | x :: xs, y :: ys => pyEq x y && pyEqItems xs ys
  | _, _ => false

/-- Each entry has an equal one under its key. -/
def pyEqEntries : List (String × Json) → Dict → Bool
  | [], _ => true
  | (key, x) :: rest, e =>
      (match Dict.get e key with
        | some y => pyEq x y
        | none => false) && pyEqEntries rest e

end

/-! ## Keywords -/

/-- `schema.get(key)` where it is a list, and nothing of it otherwise. -/
def listAt (schema : Dict) (key : String) : Option (List Json) :=
  match schema.get key with
  | some (.arr items) => some items
  | _ => none

/-- `schema.get(key)` where it is a dictionary. -/
def dictAt (schema : Dict) (key : String) : Option Dict := schema.sub key

/-- `schema.get(key)` where it is an `int`, and a truth value is one. -/
def intAt (schema : Dict) (key : String) : Option Int :=
  match schema.get key with
  | some (.int n) => some n
  | some (.bool b) => some (if b then 1 else 0)
  | _ => none

/-- A value that is an `int` or a `float`. -/
def numberOf : Json → Option Rat
  | .int n => some n
  | .float x => some x
  | .bool b => some (if b then 1 else 0)
  | _ => none

/-- The same, where truth values do not count. -/
def numericValue : Json → Option Rat
  | .int n => some n
  | .float x => some x
  | _ => none

/-- `_schema_types`. -/
def schemaTypes (schema : Dict) : List String :=
  match schema.get "type" with
  | some (.str s) => [s]
  | some (.arr items) => items.filterMap fun item =>
      match item with
      | .str s => some s
      | _ => none
  | _ => []

/-- `_json_type_matches`, by `JSON_SCHEMA_TYPE_CHECKS`. -/
def jsonTypeMatches (value : Json) (expectedType : String) : Bool :=
  match expectedType, value with
  | "object", .obj _ => true
  | "array", .arr _ => true
  | "string", .str _ => true
  | "integer", .int _ => true
  | "number", .int _ => true
  | "number", .float _ => true
  | "boolean", .bool _ => true
  | "null", .null => true
  | _, _ => false

/-- What the texts and the patterns rest on: `repr`, `re.search` and the text of a float. -/
structure SchemaTexts where
  repr : Json → String
  search : String → String → Bool
  floats : Json.FloatText

/-! ## Errors -/

section

variable (texts : SchemaTexts) (validate : Json → Json → String → List String)

/-- What a schema has against a value, if it is a dictionary. -/
def errorsIfDict (value schema : Json) (path : String) : List String :=
  match schema with
  | .obj _ => validate value schema path
  | _ => []

/-- `not json_schema_errors(value, item, path=path)` of the items that are dictionaries. -/
def matchesOf (items : List Json) (value : Json) (path : String) : List Bool :=
  (items.filter fun item => item.asDict.isSome).map fun item =>
    (validate value item path).isEmpty

/-- The error of a constant that the value is not. -/
def constErrors (value : Json) (schema : Dict) (path : String) : List String :=
  match schema.get "const" with
  | some constant =>
      if pyEq value constant then [] else [path ++ " must equal " ++ texts.repr constant]
  | none => []

/-- `_composition_errors`. -/
def compositionErrors (value : Json) (schema : Dict) (path : String) : List String :=
  (((listAt schema "allOf").getD []).flatMap fun item => errorsIfDict validate value item path)
  ++ (match listAt schema "anyOf" with
      | some anyOf =>
          let found := matchesOf validate anyOf value path
          if found ≠ [] ∧ ¬ found.any (·) then
            [path ++ " must match at least one declared schema"]
          else []
      | none => [])
  ++ (match listAt schema "oneOf" with
      | some oneOf =>
          if oneOf ≠ [] ∧ (matchesOf validate oneOf value path).count true ≠ 1 then
            [path ++ " must match exactly one declared schema"]
          else []
      | none => [])
  ++ (match dictAt schema "if" with
      | some conditional =>
          let branch :=
            if (validate value (.obj conditional) path).isEmpty then "then" else "else"
          match dictAt schema branch with
          | some chosen => validate value (.obj chosen) path
          | none => []
      | none => [])

/-- The error of a value that is none of an enumeration. -/
def enumErrors (value : Json) (schema : Dict) (path : String) : List String :=
  match listAt schema "enum" with
  | some enumValues =>
      if enumValues.any (pyEq value) then []
      else [path ++ " must be one of " ++ texts.repr (.arr enumValues)]
  | none => []

/-- The error of fewer than a least number. -/
def atLeast (schema : Dict) (key : String) (count : Nat) (wording : Json → String) :
    List String :=
  match intAt schema key with
  | some least =>
      if (count : Int) < least then [wording ((schema.get key).getD .null)] else []
  | none => []

/-- The error of more than a greatest number. -/
def atMost (schema : Dict) (key : String) (count : Nat) (wording : Json → String) :
    List String :=
  match intAt schema key with
  | some greatest =>
      if greatest < (count : Int) then [wording ((schema.get key).getD .null)] else []
  | none => []

/-- The errors of entries that are not declared. -/
def additionalErrors (entries : Dict) (schema : Dict) (path : String) : List String :=
  match dictAt schema "properties" with
  | none => []
  | some properties =>
      let undeclared := entries.filter fun entry => (properties.get entry.1).isNone
      match schema.get "additionalProperties" with
      | some (.bool false) =>
          undeclared.map fun entry => path ++ "." ++ entry.1 ++ " is not declared"
      | some (.obj additional) =>
          undeclared.flatMap fun entry =>
            validate entry.2 (.obj additional) (path ++ "." ++ entry.1)
      | _ => []

/-- A schema that is for dictionaries. -/
def objectLike (schema : Dict) : Bool :=
  (schemaTypes schema).elem "object" || schemaTypes schema = []
    && ((schema.get "properties").isSome || (schema.get "required").isSome)

/-- `_object_errors`. -/
def objectErrors (value : Json) (schema : Dict) (path : String) : List String :=
  match value with
  | .obj entries =>
      if !objectLike schema then []
      else
        (((listAt schema "required").getD []).filterMap fun item =>
          match item with
          | .str key =>
              if (Dict.get entries key).isNone then some (path ++ "." ++ key ++ " is required")
              else none
          | _ => none)
        ++ (((dictAt schema "properties").getD []).flatMap fun declared =>
          match Dict.get entries declared.1 with
          | some item => errorsIfDict validate item declared.2 (path ++ "." ++ declared.1)
          | none => [])
        ++ additionalErrors validate entries schema path
        ++ atLeast schema "minProperties" entries.length (fun least =>
          path ++ " must contain at least " ++ texts.repr least ++ " properties")
        ++ atMost schema "maxProperties" entries.length (fun greatest =>
          path ++ " must contain at most " ++ texts.repr greatest ++ " properties")
  | _ => []

def arrayLike (schema : Dict) : Bool :=
  (schemaTypes schema).elem "array" || schemaTypes schema = [] && (schema.get "items").isSome

/-- `_array_errors`. -/
def arrayErrors (value : Json) (schema : Dict) (path : String) : List String :=
  match value with
  | .arr items =>
      if !arrayLike schema then []
      else
        (match dictAt schema "items" with
          | some itemsSchema =>
              items.zipIdx.flatMap fun item =>
                validate item.1 (.obj itemsSchema) (path ++ "[" ++ toString item.2 ++ "]")
          | none => [])
        ++ atLeast schema "minItems" items.length (fun least =>
          path ++ " must contain at least " ++ texts.repr least ++ " items")
        ++ atMost schema "maxItems" items.length (fun greatest =>
          path ++ " must contain at most " ++ texts.repr greatest ++ " items")
        ++ (match schema.get "uniqueItems" with
          | some (.bool true) =>
              if (items.map (Json.dumps texts.floats [' '])).Nodup then []
              else [path ++ " items must be unique"]
          | _ => [])
  | _ => []

def boundErrors (schema : Dict) (path key : String) (violates : Rat → Bool)
    (wording : String) : List String :=
  match schema.get key with
  | some bound =>
      if (numberOf bound).any violates then
        [path ++ " must be " ++ wording ++ " " ++ texts.repr bound]
      else []
  | none => []

/-- `_scalar_errors`. -/
def scalarErrors (value : Json) (schema : Dict) (path : String) : List String :=
  (match value with
    | .str s =>
        if !(schemaTypes schema).elem "string" then []
        else
          atLeast schema "minLength" s.length (fun least =>
            path ++ " length must be at least " ++ texts.repr least)
          ++ atMost schema "maxLength" s.length (fun greatest =>
            path ++ " length must be at most " ++ texts.repr greatest)
          ++ (match schema.get "pattern" with
            | some (.str pattern) =>
                if texts.search pattern s then []
                else [path ++ " must match pattern " ++ texts.repr (.str pattern)]
            | _ => [])
    | _ => [])
  ++ (match numericValue value with
    | some x =>
        if !((schemaTypes schema).elem "integer" || (schemaTypes schema).elem "number") then []
        else
          boundErrors texts schema path "minimum" (x < ·) "greater than or equal to"
          ++ boundErrors texts schema path "maximum" (· < x) "less than or equal to"
          ++ boundErrors texts schema path "exclusiveMinimum" (x ≤ ·) "greater than"
          ++ boundErrors texts schema path "exclusiveMaximum" (· ≤ x) "less than"
    | none => [])

/-- A round of `json_schema_errors`, of a schema that is a dictionary. -/
def roundErrors (value : Json) (schema : Dict) (path : String) : List String :=
  let expectedTypes := schemaTypes schema
  let first := constErrors texts value schema path ++ compositionErrors validate value schema path
  if expectedTypes ≠ [] ∧ ¬ expectedTypes.any (jsonTypeMatches value) then
    first ++ [path ++ " expected " ++ "|".intercalate expectedTypes]
  else
    first ++ enumErrors texts value schema path ++ objectErrors texts validate value schema path
      ++ arrayErrors texts validate value schema path ++ scalarErrors texts value schema path

/-- `json_schema_errors`, on a schema of less than this depth. -/
def errorsWithin : Nat → Json → Json → String → List String
  | fuel + 1, value, .obj schema, path =>
      roundErrors texts (errorsWithin fuel) value schema path
  | _, _, _, _ => []

end

mutual

/-- How deep the dictionaries and lists of a value are nested. -/
def depth : Json → Nat
  | .arr items => depthItems items + 1
  | .obj entries => depthEntries entries + 1
  | _ => 0

def depthItems : List Json → Nat
  | [] => 0
  | item :: rest => max (depth item) (depthItems rest)

def depthEntries : List (String × Json) → Nat
  | [] => 0
  | (_, value) :: rest => max (depth value) (depthEntries rest)

end

/-- `json_schema_errors`. -/
def jsonSchemaErrors (texts : SchemaTexts) (value schema : Json) (path : String) : List String :=
  errorsWithin texts (depth schema) value schema path

/-! ## What a valid value has -/

section

variable {texts : SchemaTexts} {validate : Json → Json → String → List String} {value : Json}
  {schema entries : Dict} {path key : String}

theorem roundErrors_eq_nil_iff :
    roundErrors texts validate value schema path = []
      ↔ (schemaTypes schema = [] ∨ (schemaTypes schema).any (jsonTypeMatches value) = true)
        ∧ constErrors texts value schema path = []
        ∧ compositionErrors validate value schema path = []
        ∧ enumErrors texts value schema path = []
        ∧ objectErrors texts validate value schema path = []
        ∧ arrayErrors texts validate value schema path = []
        ∧ scalarErrors texts value schema path = [] := by
  unfold roundErrors
  dsimp only
  split
  next htype =>
    constructor
    · intro h
      cases (List.append_eq_nil_iff.mp h).2
    · rintro ⟨hnone | hsome, -⟩
      · exact absurd hnone htype.1
      · exact absurd hsome htype.2
  next htype =>
    have hmatches : schemaTypes schema = []
        ∨ (schemaTypes schema).any (jsonTypeMatches value) = true := by
      by_contra hnot
      rw [not_or] at hnot
      exact htype hnot
    simp only [List.append_eq_nil_iff, and_assoc]
    exact ⟨fun h => ⟨hmatches, h⟩, fun h => h.2⟩

theorem jsonSchemaErrors_obj :
    jsonSchemaErrors texts value (.obj schema) path
      = roundErrors texts (errorsWithin texts (depthEntries schema)) value schema path :=
  rfl

theorem objectLike_of_matches (hrequired : (schema.get "required").isSome = true)
    (hmatches : schemaTypes schema = []
      ∨ (schemaTypes schema).any (jsonTypeMatches (.obj entries)) = true) :
    objectLike schema = true := by
  unfold objectLike
  rcases hmatches with hnone | hsome
  · rw [hnone, hrequired]
    simp
  · obtain ⟨expected, hmem, hexpected⟩ := List.any_eq_true.mp hsome
    have hobject : expected = "object" := by
      unfold jsonTypeMatches at hexpected
      split at hexpected <;> simp_all
    rw [hobject] at hmem
    rw [List.elem_eq_true_of_mem hmem, Bool.true_or]

theorem isSome_of_required {required : List Json}
    (h : jsonSchemaErrors texts (.obj entries) (.obj schema) path = [])
    (hrequired : schema.get "required" = some (.arr required)) (hkey : .str key ∈ required) :
    (Dict.get entries key).isSome = true := by
  rw [jsonSchemaErrors_obj, roundErrors_eq_nil_iff] at h
  obtain ⟨hmatches, -, -, -, hobject, -⟩ := h
  have hlike := objectLike_of_matches (by rw [hrequired]; rfl) hmatches
  unfold objectErrors at hobject
  dsimp only at hobject
  rw [hlike] at hobject
  simp only [Bool.not_true, Bool.false_eq_true, if_false, List.append_eq_nil_iff] at hobject
  have hmissing := hobject.1.1.1.1
  rw [listAt, hrequired, Option.getD_some, List.filterMap_eq_nil_iff] at hmissing
  have hpresent := hmissing _ hkey
  rw [ite_eq_right_iff] at hpresent
  by_contra hnot
  have hnone : (Dict.get entries key).isNone = true := by
    simpa using hnot
  cases hpresent hnone

end

end Navi.Schema
