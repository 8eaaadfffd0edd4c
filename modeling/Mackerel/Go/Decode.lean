import Mackerel.Go.Json

/-!
# Mackerel.Go.Decode — `encoding/json` into `interface{}`

`json.Decoder.Decode` scans the first JSON value of a body and stores it into an
`interface{}`: an object becomes a `map[string]interface{}`, an array a `[]interface{}`,
a number the `float64` that `strconv.ParseFloat` reads from its literal.  A `Document` is
what the scanner makes of the body: its syntax error, or the syntax tree of the value, with
numbers as their literal and members in the order of the text.

An object's members are assigned in order into a fresh map, so a key written twice reads
its last value and the map holds each key once (`index_decodeMembers`).  A literal
`ParseFloat` refuses (one out of `float64` range) is a type error that `encoding/json`
saves while it decodes the rest: the call returns the first such error of the text.  Since
every caller here drops the value on an error, decoding stops at it
(`decodeValue_error_iff`, with `Value.numbers` the literals in text order).
-/

namespace Mackerel

set_option autoImplicit false

/-- A body as `json.Decoder` reads it: the scanner's error, or the syntax tree of its first
value. -/
abbrev Document := Except String (Value String)

namespace Object

variable {N : Type}

/-- `m[k] = v`: the entry of `k` replaced, or added at the end. -/
def set : Object N → String → Value N → Object N
  | [], k, v => [(k, v)]
  | (j, w) :: rest, k, v => if j = k then (k, v) :: rest else (j, w) :: set rest k v

theorem index_set (m : Object N) (k j : String) (v : Value N) :
    (m.set k v).index j = if k = j then some v else m.index j := by
  induction m with
  | nil => simp [set, index]
  | cons e rest ih =>
      obtain ⟨i, w⟩ := e
      by_cases same : i = k
      · subst same
        by_cases hit : i = j <;> simp [set, index, hit]
      · simp only [set, same, if_false, index, ih]
        by_cases hit : i = j
        · subst hit
          simp [Ne.symm same]
        · simp [hit]

theorem index_append (m m' : Object N) (k : String) :
    (m ++ m').index k = (m.index k).or (m'.index k) := by
  induction m with
  | nil => simp
  | cons e rest ih =>
      obtain ⟨i, w⟩ := e
      by_cases hit : i = k <;> simp [index, hit, ih]

end Object

variable {F : Type} (parseFloat : String → Option F)

/-- The error `encoding/json` saves for a number `ParseFloat` refuses, as releases that keep
no field context for a map's values print it; later ones name the map key as a struct field
(`into Go struct field .k of type float64`).  No theorem depends on this text: they say
only which literal fails and that the caller returns the decoder's error. -/
def numberError (lit : String) : String :=
  "json: cannot unmarshal number " ++ lit ++ " into Go value of type float64"

mutual

/-- `d.valueInterface()`: a value decoded into an `interface{}`. -/
def decodeValue : Value String → Except String (Value F)
  | .null => .ok .null
  | .bool b => .ok (.bool b)
  | .number lit =>
      match parseFloat lit with
      | some x => .ok (.number x)
      | none => .error (numberError lit)
  | .string s => .ok (.string s)
  | .array items => (decodeItems items).map .array
  | .object members => (decodeMembers members []).map .object

/-- The items of an array, in order. -/
def decodeItems : List (Value String) → Except String (List (Value F))
  | [] => .ok []
  | v :: vs => do
      let x ← decodeValue v
      let xs ← decodeItems vs
      pure (x :: xs)

/-- The members of an object assigned in order into the map `m`. -/
def decodeMembers : List (String × Value String) → Object F → Except String (Object F)
  | [], m => .ok m
  | (k, v) :: rest, m => do
      let x ← decodeValue v
      decodeMembers rest (m.set k x)

end

mutual

/-- The number literals of a value, in the order of the text. -/
def Value.numbers : Value String → List String
  | .number lit => [lit]
  | .array items => itemsNumbers items
  | .object members => membersNumbers members
  | _ => []

/-- The number literals of array items, in the order of the text. -/
def itemsNumbers : List (Value String) → List String
  | [] => []
  | v :: vs => v.numbers ++ itemsNumbers vs

/-- The number literals of object members, in the order of the text. -/
def membersNumbers : List (String × Value String) → List String
  | [] => []
  | (_, v) :: rest => v.numbers ++ membersNumbers rest

end

/-- The first literal of `lits` that `ParseFloat` refuses. -/
def firstRefused (lits : List String) : Option String :=
  lits.find? fun lit => (parseFloat lit).isNone

theorem firstRefused_append (l l' : List String) :
    firstRefused parseFloat (l ++ l') =
      (firstRefused parseFloat l).or (firstRefused parseFloat l') :=
  List.find?_append

section Bind

variable {ε α β : Type}

theorem except_map_eq_ok (f : α → β) (x : Except ε α) (b : β) :
    x.map f = .ok b ↔ ∃ a, x = .ok a ∧ f a = b := by
  cases x <;> simp [Except.map]

/-- Decoding one part then the rest fails at the first refused literal of the part, or of
the rest when the part decodes. -/
theorem bind_error_iff {x : Except String α} {k : α → Except String β} {lits rest : List String}
    (head : ∀ e, x = .error e ↔ (firstRefused parseFloat lits).map numberError = some e)
    (tail : ∀ a e, k a = .error e ↔ (firstRefused parseFloat rest).map numberError = some e)
    (e : String) :
    x >>= k = .error e ↔ (firstRefused parseFloat (lits ++ rest)).map numberError = some e := by
  rw [firstRefused_append]
  cases decoded : x with
  | error e' =>
      obtain ⟨lit, first, rfl⟩ := Option.map_eq_some'.1 ((head e').1 decoded)
      simp [first, eq_comm]
  | ok a =>
      have first : firstRefused parseFloat lits = none := by
        cases found : firstRefused parseFloat lits with
        | none => rfl
        | some lit => simpa [decoded] using (head (numberError lit)).2 (by simp [found])
      rw [except_ok_bind, first, Option.none_or, tail a e]

end Bind

mutual

/-- Decoding fails exactly at the first literal `ParseFloat` refuses. -/
theorem decodeValue_error_iff : ∀ (v : Value String) (e : String),
    decodeValue parseFloat v = .error e ↔
      (firstRefused parseFloat v.numbers).map numberError = some e
  | .null, e | .bool _, e | .string _, e => by
      simp [decodeValue, Value.numbers, firstRefused]
  | .number lit, e => by
      cases parsed : parseFloat lit <;>
        simp [decodeValue, Value.numbers, firstRefused, parsed, eq_comm]
  | .array items, e => by
      rw [decodeValue, Value.numbers, ← decodeItems_error_iff items e]
      cases decodeItems parseFloat items <;> simp [Except.map]
  | .object members, e => by
      rw [decodeValue, Value.numbers, ← decodeMembers_error_iff members [] e]
      cases decodeMembers parseFloat members [] <;> simp [Except.map]

theorem decodeItems_error_iff : ∀ (items : List (Value String)) (e : String),
    decodeItems parseFloat items = .error e ↔
      (firstRefused parseFloat (itemsNumbers items)).map numberError = some e
  | [], e => by simp [decodeItems, itemsNumbers, firstRefused]
  | v :: vs, e => by
      rw [decodeItems, itemsNumbers]
      refine bind_error_iff parseFloat (decodeValue_error_iff v) (fun _ e' => ?_) e
      rw [← decodeItems_error_iff vs e']
      cases decodeItems parseFloat vs <;> simp

theorem decodeMembers_error_iff : ∀ (members : List (String × Value String)) (m : Object F)
    (e : String), decodeMembers parseFloat members m = .error e ↔
      (firstRefused parseFloat (membersNumbers members)).map numberError = some e
  | [], m, e => by simp [decodeMembers, membersNumbers, firstRefused]
  | (k, v) :: rest, m, e => by
      rw [decodeMembers, membersNumbers]
      exact bind_error_iff parseFloat (decodeValue_error_iff v)
        (fun x => decodeMembers_error_iff rest (m.set k x)) e

end

/-- Decoding an object's members fails exactly when one of its number literals is refused. -/
theorem decodeMembers_fails_iff (members : List (String × Value String)) (m : Object F) :
    (∃ e, decodeMembers parseFloat members m = .error e) ↔
      ∃ lit ∈ membersNumbers members, parseFloat lit = none := by
  simp only [decodeMembers_error_iff, ← Option.isSome_iff_exists, Option.isSome_map', firstRefused,
    List.find?_isSome, Option.isNone_iff_eq_none]

theorem decodeMembers_ok_of_parses (members : List (String × Value String)) (m : Object F)
    (parses : ∀ lit ∈ membersNumbers members, (parseFloat lit).isSome) :
    ∃ m', decodeMembers parseFloat members m = .ok m' := by
  cases decoded : decodeMembers parseFloat members m with
  | ok m' => exact ⟨m', rfl⟩
  | error e =>
      obtain ⟨lit, mem, refused⟩ := (decodeMembers_fails_iff parseFloat members m).1 ⟨e, decoded⟩
      exact absurd (parses lit mem) (by simp [refused])

/-- What a key of the decoded map reads: the decoded value of the key's last member, or
what the map held before when no member names it. -/
theorem index_decodeMembers : ∀ (members : List (String × Value String)) (m m' : Object F),
    decodeMembers parseFloat members m = .ok m' → ∀ k,
      (Object.index members.reverse k = none → m'.index k = m.index k) ∧
      ∀ v, Object.index members.reverse k = some v →
        ∃ x, decodeValue parseFloat v = .ok x ∧ m'.index k = some x
  | [], m, m', decoded, k => by
      cases decoded
      exact ⟨fun _ => rfl, fun _ found => nomatch found⟩
  | (j, v) :: rest, m, m', decoded, k => by
      simp only [decodeMembers] at decoded
      cases value : decodeValue parseFloat v with
      | error e => simp [value] at decoded
      | ok x =>
          rw [value, except_ok_bind] at decoded
          obtain ⟨absent, last⟩ := index_decodeMembers rest _ m' decoded k
          rw [List.reverse_cons, Object.index_append]
          cases later : Object.index rest.reverse k with
          | some w =>
              rw [Option.or_some]
              exact ⟨(nomatch ·), fun u found => last u (later.trans found)⟩
          | none =>
              rw [Option.none_or, absent later, Object.index_set]
              by_cases hit : j = k
              · subst hit
                simp only [Object.index_cons_self, if_true, Option.some.injEq, forall_eq',
                  reduceCtorEq, false_implies, true_and]
                exact ⟨x, value, rfl⟩
              · simp [Object.index_cons_of_ne _ _ hit, hit]

end Mackerel
