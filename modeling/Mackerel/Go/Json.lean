import Mackerel.Go.Basic

/-!
# Mackerel.Go.Json — what `encoding/json` hands the plugins

`Value N` is a JSON value as `encoding/json` decodes it into an `interface{}`: objects
become `map[string]interface{}`, arrays `[]interface{}`, and numbers whatever the target
reads them as (`float64` for the Elasticsearch tree, the literal text where a struct
field parses it itself).  An object is the list of its entries, in the order a `range`
over the map visits them; `encoding/json` keeps one entry per key.

`Object.index` is Go's `m[k]`: an absent key reads as the nil interface, `none`.  A key
present with JSON `null` reads as `some .null`, which a type switch also sees as nil.
`assertObject` is the single-valued assertion `v.(map[string]interface{})`, which panics
with Go's run-time message when `v` holds anything else.
-/

namespace Mackerel

set_option autoImplicit false

/-- A JSON value decoded into an `interface{}`, numbers as `N`. -/
inductive Value (N : Type) where
  | null
  | bool (b : Bool)
  | number (n : N)
  | string (s : String)
  | array (items : List (Value N))
  | object (entries : List (String × Value N))
  deriving Repr

/-- A decoded `map[string]interface{}`, its entries in the order `range` visits them. -/
abbrev Object (N : Type) := List (String × Value N)

namespace Object

variable {N : Type}

/-- `m[k]`. -/
def index : Object N → String → Option (Value N)
  | [], _ => none
  | (k', v) :: rest, k => if k' = k then some v else index rest k

@[simp] theorem index_nil (k : String) : index ([] : Object N) k = none := rfl

@[simp] theorem index_cons_self (k : String) (v : Value N) (rest : Object N) :
    index ((k, v) :: rest) k = some v := by
  simp [index]

theorem index_cons_of_ne {k k' : String} (v : Value N) (rest : Object N) (ne : k' ≠ k) :
    index ((k', v) :: rest) k = index rest k := by
  simp [index, ne]

end Object

namespace Value

variable {N : Type}

/-- The dynamic type Go names for an `interface{}` holding `v`. -/
def typeName : Option (Value N) → String
  | none | some .null => "nil"
  | some (.bool _) => "bool"
  | some (.number _) => "float64"
  | some (.string _) => "string"
  | some (.array _) => "[]interface \x7b\x7d"
  | some (.object _) => "map[string]interface \x7b\x7d"

/-- JSON's name for `v` in the `UnmarshalTypeError` of a value that does not fit its target;
a number is named without its literal, except where a `ParseUint` refuses it. -/
def kindName : Value N → String
  | .null => "null"
  | .bool _ => "bool"
  | .number _ => "number"
  | .string _ => "string"
  | .array _ => "array"
  | .object _ => "object"

end Value

/-- The run-time panic of `v.(map[string]interface{})` on a `v` that is not a map. -/
def assertionPanic {N : Type} (v : Option (Value N)) : Failure :=
  .panic ("interface conversion: interface \x7b\x7d is " ++ Value.typeName v ++
    ", not map[string]interface \x7b\x7d")

/-- `v.(map[string]interface{})`, the single-valued assertion. -/
def assertObject {N : Type} : Option (Value N) → Except Failure (Object N)
  | some (.object m) => .ok m
  | v => .error (assertionPanic v)

@[simp] theorem assertObject_object {N : Type} (m : Object N) :
    assertObject (some (.object m)) = .ok m := rfl

theorem assertObject_of_not_object {N : Type} {v : Option (Value N)}
    (other : ∀ m, v ≠ some (.object m)) : assertObject v = .error (assertionPanic v) := by
  unfold assertObject
  split
  · exact absurd rfl (other _)
  · rfl

end Mackerel
