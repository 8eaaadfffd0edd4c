import Mathlib.Data.List.Basic

/-!
# Mackerel.Go.Basic — the Go run-time vocabulary of the plugins

The three plugins are Go functions that return `(value, error)` or stop the process with a
run-time panic.  Both ends are one `Except Failure α` here: `Failure.error` is an `error`
value the function returns (its text is the one the source builds), `Failure.panic` a
failed type assertion or a nil pointer dereference.

The metric maps the plugins build are Go `map[string]V` values.  Nothing in the plugins
ranges over them, so a map is its index expression, `GoMap V = String → Option V`, and
two maps are equal when every key reads the same: the order of insertion is not
observable.  `GoMap.addAt` is `m[k] += x`, which reads an absent key as the zero value.

Go's `int64` arithmetic wraps: `wrapInt64` is that wrap on an exact integer, which the
PHP-FPM plugin's conversion of its `Timeout` into a `time.Duration` needs.

`foldlM_error_iff` is the one loop lemma the plugins share: a loop that returns at the
first failing step fails exactly when some element makes its step fail, provided whether
a step fails does not depend on the state it is given.
-/

namespace Mackerel

set_option autoImplicit false

/-- How a call of the plugins' Go code ends when it does not return its result. -/
inductive Failure where
  /-- A non-nil `error` returned to the caller. -/
  | error (message : String)
  /-- A run-time panic: a failed type assertion or a nil pointer dereference. -/
  | panic (message : String)
  deriving DecidableEq, Repr

section Except

variable {ε α β : Type}

@[simp] theorem except_ok_bind (a : α) (f : α → Except ε β) :
    (Except.ok a >>= f) = f a := rfl

@[simp] theorem except_error_bind (e : ε) (f : α → Except ε β) :
    (Except.error e >>= f) = Except.error e := rfl

@[simp] theorem toOption_eq_some_iff (x : Except ε α) (a : α) :
    x.toOption = some a ↔ x = .ok a := by
  cases x <;> simp [Except.toOption]

/-- A loop that returns at its first failing step fails exactly when one element's step
fails, when that does not depend on the state the step is given. -/
theorem foldlM_error_iff (f : β → α → Except ε β) (bad : α → Prop)
    (step : ∀ b a, (∃ e, f b a = .error e) ↔ bad a) :
    ∀ (l : List α) (b : β), (∃ e, l.foldlM f b = .error e) ↔ ∃ a ∈ l, bad a
  | [], b => by simp [List.foldlM, pure, Except.pure]
  | a :: l, b => by
      rw [List.foldlM_cons]
      cases first : f b a with
      | error e =>
          have : bad a := (step b a).1 ⟨e, first⟩
          exact ⟨fun _ => ⟨a, List.mem_cons_self a l, this⟩, fun _ => ⟨e, rfl⟩⟩
      | ok b' =>
          have : ¬bad a := fun isBad => by
            obtain ⟨e, failed⟩ := (step b a).2 isBad
            rw [first] at failed
            cases failed
          simp only [except_ok_bind, foldlM_error_iff f bad step l b', List.mem_cons,
            exists_eq_or_imp, this, false_or]

end Except

/-- A Go `map[string]V` read through its index expression: `none` for an absent key. -/
abbrev GoMap (V : Type) := String → Option V

namespace GoMap

variable {V : Type}

/-- `make(map[string]V)`. -/
def empty : GoMap V := fun _ => none

/-- `m[k] = v`. -/
def set (m : GoMap V) (k : String) (v : V) : GoMap V :=
  fun j => if j = k then some v else m j

/-- `m[k] += x`: an absent key reads as the zero value first. -/
def addAt [OfNat V 0] [Add V] (m : GoMap V) (k : String) (x : V) : GoMap V :=
  m.set k ((m k).getD 0 + x)

@[simp] theorem empty_apply (k : String) : (empty : GoMap V) k = none := rfl

@[simp] theorem set_self (m : GoMap V) (k : String) (v : V) : m.set k v k = some v := by
  simp [set]

theorem set_of_ne (m : GoMap V) {j k : String} (v : V) (ne : j ≠ k) : m.set k v j = m j := by
  simp [set, ne]

@[simp] theorem addAt_self [OfNat V 0] [Add V] (m : GoMap V) (k : String) (x : V) :
    m.addAt k x k = some ((m k).getD 0 + x) := set_self _ _ _

theorem addAt_of_ne [OfNat V 0] [Add V] (m : GoMap V) {j k : String} (x : V) (ne : j ≠ k) :
    m.addAt k x j = m j := set_of_ne _ _ ne

end GoMap

/-! ## Graph definitions -/

/-- `mp.Metrics`: one metric of a graph. -/
structure Metrics where
  name : String
  label : String
  diff : Bool := false
  stacked : Bool := false
  /-- `Type`, which only the plugins built on `go-mackerel-plugin-helper` set. -/
  type : String := ""
  deriving DecidableEq, Repr

/-- `mp.Graphs`: a graph's label, unit and metrics. -/
structure Graphs where
  label : String
  unit : String
  metrics : List Metrics
  deriving DecidableEq, Repr

/-- The metric names a `GraphDefinition` declares, graph after graph. -/
def metricNames (graphs : List (String × Graphs)) : List String :=
  graphs.flatMap fun g => g.2.metrics.map (·.name)

/-! ## Durations -/

/-- A Go `int64` computation on an exact integer: the two's-complement wrap onto
`[-2^63, 2^63)`. -/
def wrapInt64 (x : Int) : Int :=
  (x + 9223372036854775808) % 18446744073709551616 - 9223372036854775808

/-- The deadline an `http.Client` with this `Timeout` (nanoseconds) sets: none unless
`Timeout > 0`. -/
def deadline (timeout : Int) : Option Int :=
  if 0 < timeout then some timeout else none

theorem deadline_eq_some_iff (timeout d : Int) :
    deadline timeout = some d ↔ 0 < timeout ∧ timeout = d := by
  unfold deadline
  split <;> simp [*]

/-! ## Decimal digits -/

/-- The digits of `cs` read as a decimal number after `acc`; `none` at a non-digit. -/
def decimalAux : Nat → List Char → Option Nat
  | acc, [] => some acc
  | acc, c :: cs => if c.isDigit then decimalAux (10 * acc + (c.toNat - '0'.toNat)) cs else none

/-- A non-empty string of ASCII digits read in base 10, as `strconv` reads it. -/
def decimal : List Char → Option Nat
  | [] => none
  | cs => decimalAux 0 cs

end Mackerel
