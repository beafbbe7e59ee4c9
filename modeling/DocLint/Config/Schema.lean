import DocLint.Json.Basic

/-!
# Schemas

A schema describes the JSON values that are allowed somewhere. `violation?` finds the first place
where a value breaks its schema: members of objects are visited in the order of their keys, and what
is inside of a member before the next one.
-/

namespace DocLint

/-- A description of JSON values. -/
inductive Schema where
  /-- A string, which may have to be non-empty. -/
  | string (nonEmpty : Bool)
  | boolean
  | array (items : Schema)
  /-- An object with no members but the given ones, all of which may be missing. -/
  | record (fields : List (Text × Schema))
  /-- An object with members of any key. -/
  | table (values : Schema)
  /-- A boolean or one of some words. -/
  | switch (words : List Text)
  deriving Repr

namespace Schema

/-- How a value breaks its schema. -/
inductive Breach where
  | wrongType (value : Json) (expected : Text)
  | emptyString
  | unexpectedMember (key : Text)
  | noAlternative (value : Json)
  deriving Repr

def Breach.message : Breach → Text
  | .wrongType value expected =>
    value.render ++ " is not of type \"".toList ++ expected ++ "\"".toList
  | .emptyString => "\"\" is shorter than 1 character".toList
  | .unexpectedMember key =>
    "Additional properties are not allowed ('".toList ++ key ++ "' was unexpected)".toList
  | .noAlternative value =>
    value.render ++
      " is not valid under any of the schemas listed in the 'oneOf' keyword".toList

/-- A breach and the way to it: keys of members and numbers of elements. -/
structure Violation where
  breach : Breach
  path : List Text
  deriving Repr

/-- Puts a step before the way to a violation. -/
def Violation.under (step : Text) (v : Violation) : Violation :=
  { v with path := step :: v.path }

/-- A step of a pointer: `~` and `/` are escaped. -/
def escapeStep (t : Text) : Text :=
  t.flatMap fun c => if c == '~' then ['~', '0'] else if c == '/' then ['~', '1'] else [c]

def Violation.pointer (v : Violation) : Text :=
  v.path.flatMap fun step => '/' :: escapeStep step

def Violation.message (v : Violation) : Text :=
  v.breach.message ++ " at ".toList ++ v.pointer

/-- The first violation among the members of an object, visited in their order. -/
def firstMember (check : Text → Json → Option Violation) :
    List (Text × Json) → Option Violation
  | [] => none
  | (key, value) :: more =>
    match check key value with
    | some v => some v
    | none => firstMember check more

/-- The first violation among the elements of an array, of which the first has the given number. -/
def firstElement (check : Json → Option Violation) (number : Nat) : List Json → Option Violation
  | [] => none
  | x :: xs =>
    match check x with
    | some v => some (v.under (Text.ofNat number))
    | none => firstElement check (number + 1) xs

mutual

/-- The first place where a value breaks a schema. -/
def violation? : Schema → Json → Option Violation
  | .string nonEmpty, j =>
    match j with
    | .str t => if nonEmpty && t.isEmpty then some ⟨.emptyString, []⟩ else none
    | _ => some ⟨.wrongType j "string".toList, []⟩
  | .boolean, j =>
    match j with
    | .bool _ => none
    | _ => some ⟨.wrongType j "boolean".toList, []⟩
  | .array items, j =>
    match j with
    | .arr xs => firstElement items.violation? 0 xs
    | _ => some ⟨.wrongType j "array".toList, []⟩
  | .record fields, j =>
    match j with
    | .obj members => firstMember (fieldViolation? fields) members
    | _ => some ⟨.wrongType j "object".toList, []⟩
  | .table values, j =>
    match j with
    | .obj members => firstMember (fun key v => (values.violation? v).map (·.under key)) members
    | _ => some ⟨.wrongType j "object".toList, []⟩
  | .switch words, j =>
    match j with
    | .bool _ => none
    | .str t => if words.contains t then none else some ⟨.noAlternative j, []⟩
    | _ => some ⟨.noAlternative j, []⟩

/-- The first place where a member breaks the schema of its key. -/
def fieldViolation? : List (Text × Schema) → Text → Json → Option Violation
  | [], key, _ => some ⟨.unexpectedMember key, []⟩
  | (name, s) :: more, key, value =>
    if name == key then (s.violation? value).map (·.under key)
    else fieldViolation? more key value

end

def allows (s : Schema) (j : Json) : Bool :=
  (s.violation? j).isNone

end Schema

end DocLint
