import DocumentDb.Json.Basic

/-!
# Equality and order of JSON values

Three comparisons. `deepEqual` is equality up to the order of fields and the spelling of numbers.
`collate` is the order in which views sort, `null < booleans < numbers < strings < arrays <
objects`; `sortByKey` sorts by it. `compare?` is the narrower order of the selector operators, in
which only two numbers, two strings or two booleans are comparable.
-/

namespace DocumentDb.Json

/-! ### Equality -/

mutual

/-- Equality of values: numbers by value, objects whatever the order of their fields. -/
def deepEqual : Json → Json → Bool
  | .null, .null => true
  | .bool a, .bool b => a == b
  | .number a, .number b => a.toDouble.numericEq b.toDouble
  | .string a, .string b => a == b
  | .array as, .array bs => deepEqualItems as bs
  | .object as, .object bs => as.length == bs.length && deepEqualFields as bs
  | _, _ => false

/-- Equality of arrays, item by item. -/
def deepEqualItems : List Json → List Json → Bool
  | [], [] => true
  | a :: as, b :: bs => deepEqual a b && deepEqualItems as bs
  | _, _ => false

/-- Whether every field of the first object has an equal one in the second. -/
def deepEqualFields : List (String × Json) → List (String × Json) → Bool
  | [], _ => true
  | (key, a) :: as, bs =>
    (match Fields.value? bs key with
      | some b => deepEqual a b
      | none => false) && deepEqualFields as bs

end

/-- Equality of values that may be missing: missing equals missing only. -/
def optionalEqual : Option Json → Option Json → Bool
  | some a, some b => deepEqual a b
  | none, none => true
  | _, _ => false

/-! ### Collation -/

mutual

/-- The value with the fields of every object sorted by key. -/
def sortFields : Json → Json
  | .array items => .array (sortFieldsItems items)
  | .object fields => .object ((sortFieldsMembers fields).mergeSort fun a b => a.1 ≤ b.1)
  | value => value

@[inherit_doc sortFields]
def sortFieldsItems : List Json → List Json
  | [] => []
  | item :: items => sortFields item :: sortFieldsItems items

@[inherit_doc sortFields]
def sortFieldsMembers : List (String × Json) → List (String × Json)
  | [] => []
  | (key, value) :: fields => (key, sortFields value) :: sortFieldsMembers fields

end

mutual

/-- The order of values whose fields are sorted: by kind, then by content; arrays and objects are
lexicographic, and the fields of an object are ordered by key, then by value. -/
def collateSorted : Json → Json → Ordering
  | .null, .null => .eq
  | .bool a, .bool b => compare a b
  | .number a, .number b => a.toDouble.totalCompare b.toDouble
  | .string a, .string b => compare a b
  | .array as, .array bs => collateItems as bs
  | .object as, .object bs => collateFields as bs
  | a, b => compare a.kind.rank b.kind.rank

@[inherit_doc collateSorted]
def collateItems : List Json → List Json → Ordering
  | [], [] => .eq
  | [], _ :: _ => .lt
  | _ :: _, [] => .gt
  | a :: as, b :: bs => (collateSorted a b).then (collateItems as bs)

@[inherit_doc collateSorted]
def collateFields : List (String × Json) → List (String × Json) → Ordering
  | [], [] => .eq
  | [], _ :: _ => .lt
  | _ :: _, [] => .gt
  | (j, a) :: as, (k, b) :: bs =>
    ((compare j k).then (collateSorted a b)).then (collateFields as bs)

end

/-- The order in which views sort: `null < booleans < numbers < strings < arrays < objects`. -/
def collate (a b : Json) : Ordering := collateSorted a.sortFields b.sortFields

/-- Sort items by the collation of their keys, upwards or downwards; items with equal keys keep
their order both ways. -/
def sortByKey {α : Type} (descending : Bool) (key : α → Json) (items : List α) : List α :=
  items.mergeSort fun a b =>
    (if descending then collate (key b) (key a) else collate (key a) (key b)) != .gt

/-! ### The order of the selector operators -/

/-- The order of two numbers, two strings or two booleans; no other values are comparable. -/
def compare? : Json → Json → Option Ordering
  | .number a, .number b => some (a.toDouble.compare b.toDouble)
  | .string a, .string b => some (compare a b)
  | .bool a, .bool b => some (compare a b)
  | _, _ => none

end DocumentDb.Json
