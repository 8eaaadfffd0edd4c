import Mackerel.Elasticsearch.FetchMetrics

/-!
# Mackerel.Elasticsearch.Extract — the metric map without its loop

What the metric loop of `FetchMetrics` is for, stated without `range`, logging or the
loop's state: `extract node` maps each key of `metricPlace` to the number its path leads
to in the node, and every other key to nothing.

* `collect_stat_eq_extract`: the loop computes exactly `extract`, in every order of
  `metricPlace` and with either logging setting;
* `fetchMetrics_stat_eq_extract`: so a run returns `extract` of the node it picked, or the
  error that stopped it before the loop;
* `fetchMetrics_stat_suppress`, `fetchMetrics_stat_places`: from the same lemma, the
  logging setting and the order of `metricPlace` change the log lines only, and the loop
  never fails a run.
-/

namespace Mackerel.Elasticsearch

set_option autoImplicit false

variable {F : Type}

/-- The metrics of a node: each `metricPlace` key mapped to the number its path leads to. -/
def extract (node : Object F) : GoMap F :=
  fun k => (metricPlace.lookup k).bind (followPath node)

/-- In a list whose keys are distinct, `lookup` finds exactly the entries. -/
theorem lookup_eq_some_iff {l : List (String × List String)} (nodup : (l.map Prod.fst).Nodup)
    (k : String) (path : List String) : l.lookup k = some path ↔ (k, path) ∈ l := by
  induction l with
  | nil => simp
  | cons e rest ih =>
      obtain ⟨k', path'⟩ := e
      rw [List.map_cons, List.nodup_cons] at nodup
      by_cases same : k = k'
      · subst same
        have absent : (k, path) ∉ rest := fun mem => nodup.1 (List.mem_map.2 ⟨_, mem, rfl⟩)
        simp [List.lookup_cons, absent, eq_comm]
      · simp [List.lookup_cons, beq_eq_false_iff_ne.2 same, same, ih nodup.2]

variable [OfNat F 0]

/-- The metric loop computes `extract`, whatever the order and the logging setting. -/
theorem collect_stat_eq_extract (suppress : Bool) (node : Object F)
    {places : List (String × List String)} (perm : places.Perm metricPlace) :
    (collect suppress node places).stat = extract node := by
  funext k
  refine Option.ext fun v => ?_
  rw [Option.mem_def, Option.mem_def,
    collect_stat_iff _ _ ((perm.map Prod.fst).nodup_iff.2 metricPlace_keys_nodup), extract,
    Option.bind_eq_some]
  refine exists_congr fun path => ?_
  rw [lookup_eq_some_iff metricPlace_keys_nodup, ← perm.mem_iff]
  refine and_congr_right fun mem => ?_
  obtain ⟨k', ks, rfl⟩ :=
    List.exists_cons_of_ne_nil (metricPlace_paths_ne_nil _ (perm.mem_iff.1 mem))
  exact getFloatValue_ok_iff node k' ks v

/-- A run's map is `extract` of the node it picked: the plugin's settings and the order
of either `range` loop change nothing but the log. -/
theorem fetchMetrics_stat_eq_extract (p : ElasticsearchPlugin) (order : RangeOrder F)
    (exchange : StatsRequest → Except String (Object F)) :
    (fetchMetrics p order exchange).map (·.stat) = (fetchNode p order exchange).map extract := by
  rw [fetchMetrics_map_stat]
  exact congrArg (Except.map · _) (funext fun node =>
    collect_stat_eq_extract _ node order.places_perm)

/-- `SuppressMissingError` decides the log lines only: the metric loop never fails, so a run
fails exactly when picking its node does and a path that leads to no number never fails it,
and with the setting on or off a run fails alike or returns the same metrics. -/
theorem fetchMetrics_stat_suppress (p : ElasticsearchPlugin) (order : RangeOrder F)
    (exchange : StatsRequest → Except String (Object F)) :
    (∀ e, fetchMetrics p order exchange = .error e ↔ fetchNode p order exchange = .error e) ∧
      (fetchMetrics { p with suppressMissingError := true } order exchange).map (·.stat) =
        (fetchMetrics { p with suppressMissingError := false } order exchange).map (·.stat) := by
  refine ⟨fun e => ?_, ?_⟩
  · cases found : fetchNode p order exchange with
    | ok node => simp [fetchMetrics_of_fetchNode_ok p order found]
    | error e' => simp [fetchMetrics_of_fetchNode_error p order found]
  · have node : ∀ b, fetchNode { p with suppressMissingError := b } order exchange =
        fetchNode p order exchange := fun _ => fetchNode_congr p order rfl rfl
    have extracted : ∀ b, (fetchMetrics { p with suppressMissingError := b } order exchange).map
        (·.stat) = (fetchNode p order exchange).map extract := fun b => by
      rw [fetchMetrics_map_stat, node b]
      exact congrArg (Except.map · _) (funext fun node =>
        collect_stat_eq_extract _ node order.places_perm)
    rw [extracted, extracted]

/-- The order `range` visits `metricPlace` in decides the order of the log lines only. -/
theorem fetchMetrics_stat_places (p : ElasticsearchPlugin) (order : RangeOrder F)
    (exchange : StatsRequest → Except String (Object F)) :
    (fetchMetrics p order exchange).map (·.stat) =
      (fetchMetrics p { order with places := metricPlace, places_perm := List.Perm.refl _ }
        exchange).map (·.stat) := by
  have node : fetchNode p { order with places := metricPlace, places_perm := List.Perm.refl _ }
      exchange = fetchNode p order exchange := fetchNode_congr p order rfl rfl
  rw [fetchMetrics_map_stat, fetchMetrics_map_stat, node]
  exact congrArg (Except.map · _) (funext fun n =>
    (collect_stat_eq_extract _ n order.places_perm).trans
      (collect_stat_eq_extract _ n (List.Perm.refl _)).symm)

end Mackerel.Elasticsearch
