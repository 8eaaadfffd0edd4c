import Mackerel.Go.Json

/-!
# Mackerel.Elasticsearch.GetFloatValue — following a key path through the node stats

`getFloatValue(s, keys)` walks the decoded node statistics with an index loop: every key
but the last must lead to a map, the last to a `float64`.  The loop's state is the current
map `sm` and the value read so far; its position matters only through how many keys are
left (`getFloatValueLoop_shift`), so the loop unrolls into one step per key:

* `getFloatValue_singleton`, `getFloatValue_cons_cons`: the last key reads a number or
  fails with `Not float64`; an earlier key descends into a map or fails with
  `Cannot handle as a hash`;
* `getFloatValue_ok_iff`: on every non-empty path the loop succeeds exactly when the
  recursive lookup `followPath` finds a number, and returns that number.
-/

namespace Mackerel.Elasticsearch

set_option autoImplicit false

variable {F : Type} [OfNat F 0]

/-- The loop of `getFloatValue` at index `i` of `n` keys, with `sm` the current map and
`val` the number read so far. -/
def getFloatValueLoop (n : Nat) : Nat → Object F → F → List String → Except String F
  | _, _, val, [] => .ok val
  | i, sm, val, k :: ks =>
      if i + 1 < n then
        match sm.index k with
        | some (.object m) => getFloatValueLoop n (i + 1) m val ks
        | _ => .error "Cannot handle as a hash"
      else
        match sm.index k with
        | some (.number x) => getFloatValueLoop n (i + 1) sm x ks
        | _ => .error "Not float64"

/-- `getFloatValue(s, keys)`. -/
def getFloatValue (s : Object F) (keys : List String) : Except String F :=
  getFloatValueLoop keys.length 0 s 0 keys

/-- The lookup the loop implements, stated recursively: a number at the end of the path,
maps all along it. -/
def followPath (m : Object F) : List String → Option F
  | [] => none
  | [k] =>
      match m.index k with
      | some (.number x) => some x
      | _ => none
  | k :: k' :: ks =>
      match m.index k with
      | some (.object m') => followPath m' (k' :: ks)
      | _ => none

omit [OfNat F 0] in
/-- The loop reads its index only through `i + 1 < n`. -/
theorem getFloatValueLoop_shift (n d : Nat) :
    ∀ (i : Nat) (sm : Object F) (val : F) (ks : List String),
      getFloatValueLoop (n + d) (i + d) sm val ks = getFloatValueLoop n i sm val ks
  | _, _, _, [] => rfl
  | i, sm, val, k :: ks => by
      have same : (i + 1 + d < n + d) = (i + 1 < n) := propext (by omega)
      simp only [getFloatValueLoop, Nat.add_right_comm i d 1, same]
      split <;> split <;> first | rfl | exact getFloatValueLoop_shift n d _ _ _ ks

@[simp] theorem getFloatValue_nil (s : Object F) : getFloatValue s [] = .ok 0 := rfl

theorem getFloatValue_singleton (s : Object F) (k : String) :
    getFloatValue s [k] =
      match s.index k with
      | some (.number x) => .ok x
      | _ => .error "Not float64" := by
  simp only [getFloatValue, getFloatValueLoop, List.length_singleton, lt_self_iff_false, if_false]

theorem getFloatValue_cons_cons (s : Object F) (k k' : String) (ks : List String) :
    getFloatValue s (k :: k' :: ks) =
      match s.index k with
      | some (.object m) => getFloatValue m (k' :: ks)
      | _ => .error "Cannot handle as a hash" := by
  have descend : ∀ m : Object F,
      getFloatValueLoop (ks.length + 2) 1 m 0 (k' :: ks) = getFloatValue m (k' :: ks) :=
    fun m => getFloatValueLoop_shift (ks.length + 1) 1 0 m 0 (k' :: ks)
  simp only [getFloatValue, getFloatValueLoop, List.length_cons, Nat.zero_add,
    show 1 < ks.length + 1 + 1 by omega, if_true]
  split
  · exact descend _
  · rfl

theorem getFloatValue_ok_iff (s : Object F) (k : String) (ks : List String) (v : F) :
    getFloatValue s (k :: ks) = .ok v ↔ followPath s (k :: ks) = some v := by
  induction ks generalizing s k with
  | nil =>
      rw [getFloatValue_singleton, followPath]
      split <;> simp
  | cons k' ks ih =>
      rw [getFloatValue_cons_cons, followPath]
      split
      · exact ih _ k'
      · simp

/-- On every non-empty path, `getFloatValue` returns `(v, nil)` exactly when `followPath`
finds the number `v`, and an error otherwise. -/
theorem getFloatValue_eq_followPath (s : Object F) (k : String) (ks : List String) :
    (getFloatValue s (k :: ks)).toOption = followPath s (k :: ks) :=
  Option.ext fun v => by
    rw [Option.mem_def, Option.mem_def, toOption_eq_some_iff, getFloatValue_ok_iff]

end Mackerel.Elasticsearch
