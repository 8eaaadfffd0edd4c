import Mackerel.Elasticsearch.GetFloatValue
import Mathlib.Data.List.Perm.Basic

/-!
# Mackerel.Elasticsearch.FetchMetrics — one node's statistics, metric by metric

`ElasticsearchPlugin.FetchMetrics` asks for `/_nodes/_local/stats`, decodes the body into
`s`, asserts `s["nodes"]` is a map, picks its one node with a loop that uses `""` for
"no node seen yet", asserts that node is a map, and reads every metric of `metricPlace`
with `getFloatValue`, skipping (and logging, unless `SuppressMissingError`) the ones it
cannot read.  Both `range` loops run in an order Go leaves open; a `RangeOrder` fixes it
for one run, and every theorem here holds for all of them.

* `fetchNode_of_nodes_not_object`, `fetchNode_of_no_node`, `fetchNode_of_single_node`:
  the two single-valued type assertions panic unless `s["nodes"]` is a map and the node
  picked is a map;
* `selectNode_ok_iff`: the node loop returns without error exactly when every key it
  visits before the last is `""`; so with no `""` key it fails exactly on two or more
  nodes (`selectNode_ok_iff_of_no_empty_key`), and with one it depends on the order;
* `collect_stat_iff`: the metric loop's map holds a metric exactly when its path leads to
  a number, with that number, in every order of `metricPlace`;
* `collect_log`: the lines are one `Failed to find` per metric not read, in visiting
  order, and none under `SuppressMissingError`.
-/

namespace Mackerel.Elasticsearch

set_option autoImplicit false

/-- `metricPlace`: each metric's key path into a node's statistics, in source order. -/
def metricPlace : List (String × List String) :=
  [("http_opened", ["http", "total_opened"]),
   ("total_indexing_index", ["indices", "indexing", "index_total"]),
   ("total_indexing_delete", ["indices", "indexing", "delete_total"]),
   ("total_get", ["indices", "get", "total"]),
   ("total_search_query", ["indices", "search", "query_total"]),
   ("total_search_fetch", ["indices", "search", "fetch_total"]),
   ("total_merges", ["indices", "merges", "total"]),
   ("total_refresh", ["indices", "refresh", "total"]),
   ("total_flush", ["indices", "flush", "total"]),
   ("total_warmer", ["indices", "warmer", "total"]),
   ("total_percolate", ["indices", "percolate", "total"]),
   ("total_suggest", ["indices", "suggest", "total"]),
   ("docs_count", ["indices", "docs", "count"]),
   ("docs_deleted", ["indices", "docs", "deleted"]),
   ("fielddata_size", ["indices", "fielddata", "memory_size_in_bytes"]),
   ("filter_cache_size", ["indices", "filter_cache", "memory_size_in_bytes"]),
   ("segments_size", ["indices", "segments", "memory_in_bytes"]),
   ("segments_index_writer_size", ["indices", "segments", "index_writer_memory_in_bytes"]),
   ("segments_version_map_size", ["indices", "segments", "version_map_memory_in_bytes"]),
   ("segments_fixed_bit_set_size", ["indices", "segments", "fixed_bit_set_memory_in_bytes"]),
   ("evictions_fielddata", ["indices", "fielddata", "evictions"]),
   ("evictions_filter_cache", ["indices", "filter_cache", "evictions"]),
   ("heap_used", ["jvm", "mem", "heap_used_in_bytes"]),
   ("heap_max", ["jvm", "mem", "heap_max_in_bytes"]),
   ("threads_generic", ["thread_pool", "generic", "threads"]),
   ("threads_index", ["thread_pool", "index", "threads"]),
   ("threads_snapshot_data", ["thread_pool", "snapshot_data", "threads"]),
   ("threads_get", ["thread_pool", "get", "threads"]),
   ("threads_bench", ["thread_pool", "bench", "threads"]),
   ("threads_snapshot", ["thread_pool", "snapshot", "threads"]),
   ("threads_merge", ["thread_pool", "merge", "threads"]),
   ("threads_suggest", ["thread_pool", "suggest", "threads"]),
   ("threads_bulk", ["thread_pool", "bulk", "threads"]),
   ("threads_optimize", ["thread_pool", "optimize", "threads"]),
   ("threads_warmer", ["thread_pool", "warmer", "threads"]),
   ("threads_flush", ["thread_pool", "flush", "threads"]),
   ("threads_search", ["thread_pool", "search", "threads"]),
   ("threads_percolate", ["thread_pool", "percolate", "threads"]),
   ("threads_refresh", ["thread_pool", "refresh", "threads"]),
   ("threads_management", ["thread_pool", "management", "threads"]),
   ("threads_fetch_shard_started", ["thread_pool", "fetch_shard_started", "threads"]),
   ("threads_fetch_shard_store", ["thread_pool", "fetch_shard_store", "threads"]),
   ("threads_listener", ["thread_pool", "listener", "threads"]),
   ("count_rx", ["transport", "rx_count"]),
   ("count_tx", ["transport", "tx_count"]),
   ("open_file_descriptors", ["process", "open_file_descriptors"]),
   ("compilations", ["script", "compilations"]),
   ("cache_evictions", ["script", "cache_evictions"]),
   ("compilation_limit_triggered", ["script", "compilation_limit_triggered"])]

/-- The settings of an `ElasticsearchPlugin`. -/
structure ElasticsearchPlugin where
  uri : String
  /-- `Prefix`, the metric key prefix. -/
  metricKeyPrefix : String
  labelPrefix : String
  insecure : Bool
  user : String
  password : String
  suppressMissingError : Bool

/-- The request `FetchMetrics` sends, with the TLS setting of its client. -/
structure StatsRequest where
  url : String
  userAgent : String
  basicAuth : Option (String × String)
  insecureSkipVerify : Bool
  /-- The client's `Timeout`, in nanoseconds. -/
  timeout : Int

/-- `http.NewRequest(GET, p.URI+"/_nodes/_local/stats", nil)` and its settings; the client
sets no `Timeout`. -/
def statsRequest (p : ElasticsearchPlugin) : StatsRequest where
  url := p.uri ++ "/_nodes/_local/stats"
  userAgent := "mackerel-plugin-elasticsearch"
  basicAuth := if p.user != "" && p.password != "" then some (p.user, p.password) else none
  insecureSkipVerify := p.insecure
  timeout := 0

variable {F : Type}

/-- The order of one run's two `range` statements: over the `nodes` map and over
`metricPlace`. -/
structure RangeOrder (F : Type) where
  nodes : Object F → Object F
  nodes_perm : ∀ m, (nodes m).Perm m
  places : List (String × List String)
  places_perm : places.Perm metricPlace

/-- The order the maps list their entries in, `metricPlace` in source order. -/
def RangeOrder.inSource : RangeOrder F :=
  ⟨id, fun _ => List.Perm.refl _, metricPlace, List.Perm.refl _⟩

/-- The node loop, `n` the key kept so far (`""` before the first). -/
def selectNode : String → Object F → Except Failure String
  | n, [] => .ok n
  | n, (k, _) :: rest => if n != "" then .error (.error "Multiple node found") else selectNode k rest

/-! ## The node loop -/

theorem selectNode_error {n : String} {l : Object F} {e : Failure}
    (failed : selectNode n l = .error e) : e = .error "Multiple node found" := by
  induction l generalizing n with
  | nil => cases failed
  | cons entry rest ih =>
      simp only [selectNode] at failed
      split at failed
      · exact (Except.error.inj failed).symm
      · exact ih failed

/-- The node loop returns without error exactly when every key it holds before the last
visit, the starting `n` included, is `""`. -/
theorem selectNode_ok_iff (n : String) (l : Object F) :
    (∃ m, selectNode n l = .ok m) ↔ ∀ x ∈ (n :: l.map Prod.fst).dropLast, x = "" := by
  induction l generalizing n with
  | nil => simp [selectNode]
  | cons entry rest ih =>
      by_cases empty : n = ""
      · simp [selectNode, empty, ih entry.1]
      · simp [selectNode, empty]

/-- It returns the last key it visits. -/
theorem selectNode_ok {n m : String} {l : Object F} (selected : selectNode n l = .ok m) :
    m = (l.map Prod.fst).getLastD n := by
  induction l generalizing n with
  | nil => exact (Except.ok.inj selected).symm
  | cons entry rest ih =>
      simp only [selectNode] at selected
      split at selected
      · cases selected
      · rw [ih selected, List.map_cons, List.getLastD_cons]

/-- Without a `""` key, the loop fails exactly on two or more nodes. -/
theorem selectNode_ok_iff_of_no_empty_key {l : Object F} (named : ∀ e ∈ l, e.1 ≠ "") :
    (∃ m, selectNode "" l = .ok m) ↔ l.length ≤ 1 := by
  rw [selectNode_ok_iff]
  match l, named with
  | [], _ => simp
  | [_], _ => simp
  | e :: e' :: rest, named => simp [named e (List.mem_cons_self e _)]

/-- Two named nodes fail the loop. -/
theorem selectNode_ok_iff_of_no_empty_key_two_nodes :
    let nodes : Object Nat := [("n1", .object []), ("n2", .object [])]
    (∀ e ∈ nodes, e.1 ≠ "") ∧ ((∃ m, selectNode "" nodes = .ok m) ↔ nodes.length ≤ 1) :=
  ⟨by decide, selectNode_ok_iff_of_no_empty_key (by decide)⟩

/-- With the keys `""` and `"a"`, the loop picks `"a"` when it visits `""` first and
fails when it visits `"a"` first. -/
theorem selectNode_depends_on_order :
    selectNode "" ([("", .object []), ("a", .object [])] : Object Nat) = .ok "a" ∧
      selectNode "" ([("a", .object []), ("", .object [])] : Object Nat) =
        .error (.error "Multiple node found") :=
  ⟨rfl, rfl⟩

/-! ## Up to the node -/

/-- `FetchMetrics` up to `node := nodes[n].(map[string]interface{})`.  `exchange` is the
HTTP round trip and `decoder.Decode(&s)`: their error, or the decoded map (a `null` body
leaves `s` nil, which reads as the empty map). -/
def fetchNode (p : ElasticsearchPlugin) (order : RangeOrder F)
    (exchange : StatsRequest → Except String (Object F)) : Except Failure (Object F) := do
  let s ← (exchange (statsRequest p)).mapError .error
  let nodes ← assertObject (s.index "nodes")
  let n ← selectNode "" (order.nodes nodes)
  assertObject (nodes.index n)

section Node

variable (p : ElasticsearchPlugin) (order : RangeOrder F)
  {exchange : StatsRequest → Except String (Object F)} {s : Object F}

theorem fetchNode_of_exchange_error {e : String} (failed : exchange (statsRequest p) = .error e) :
    fetchNode p order exchange = .error (.error e) := by
  simp [fetchNode, failed, Except.mapError]

theorem fetchNode_of_nodes_not_object (decoded : exchange (statsRequest p) = .ok s)
    {v : Option (Value F)} (nodes : s.index "nodes" = v) (other : ∀ m, v ≠ some (.object m)) :
    fetchNode p order exchange = .error (assertionPanic v) := by
  subst nodes
  simp [fetchNode, decoded, Except.mapError, assertObject_of_not_object other]

theorem fetchNode_of_no_node (decoded : exchange (statsRequest p) = .ok s)
    (empty : s.index "nodes" = some (.object [])) :
    fetchNode p order exchange = .error (assertionPanic (none : Option (Value F))) := by
  have visit : order.nodes [] = [] := List.perm_nil.1 (order.nodes_perm [])
  simp only [fetchNode, decoded, Except.mapError, empty, visit, selectNode, assertObject_object,
    except_ok_bind]
  rfl

theorem fetchNode_of_single_node (decoded : exchange (statsRequest p) = .ok s) {id : String}
    {v : Value F} (single : s.index "nodes" = some (.object [(id, v)])) :
    fetchNode p order exchange = assertObject (some v) := by
  have visit := List.perm_singleton.1 (order.nodes_perm [(id, v)])
  simp [fetchNode, decoded, Except.mapError, single, visit, selectNode]

/-- The node does not depend on the logging setting or on the order of `metricPlace`. -/
theorem fetchNode_congr {p' : ElasticsearchPlugin} {order' : RangeOrder F}
    (request : statsRequest p' = statsRequest p) (visit : order'.nodes = order.nodes) :
    fetchNode p' order' exchange = fetchNode p order exchange := by
  simp only [fetchNode, request, visit]

end Node

/-! ## The metric loop -/

variable [OfNat F 0]

/-- The text of `logger.Errorf("Failed to find '%s': %s", k, err)`. -/
def failedToFind (k e : String) : String :=
  "Failed to find \x27" ++ k ++ "\x27: " ++ e

/-- What the metric loop leaves: the map, and the lines it logged. -/
structure Collected (F : Type) where
  stat : GoMap F
  log : List String

/-- One pass of the metric loop. -/
def collectStep (suppress : Bool) (node : Object F) (acc : Collected F)
    (place : String × List String) : Collected F :=
  match getFloatValue node place.2 with
  | .ok val => { acc with stat := acc.stat.set place.1 val }
  | .error e => if suppress then acc else { acc with log := acc.log ++ [failedToFind place.1 e] }

/-- The metric loop over `places`, from the empty map. -/
def collect (suppress : Bool) (node : Object F) (places : List (String × List String)) :
    Collected F :=
  places.foldl (collectStep suppress node) ⟨GoMap.empty, []⟩

/-- `ElasticsearchPlugin.FetchMetrics`: the node, then the metric loop over it. -/
def fetchMetrics (p : ElasticsearchPlugin) (order : RangeOrder F)
    (exchange : StatsRequest → Except String (Object F)) : Except Failure (Collected F) := do
  let node ← fetchNode p order exchange
  pure (collect p.suppressMissingError node order.places)

theorem collectStep_stat (suppress : Bool) (node : Object F) (acc : Collected F)
    (place : String × List String) :
    (collectStep suppress node acc place).stat =
      match getFloatValue node place.2 with
      | .ok v => acc.stat.set place.1 v
      | .error _ => acc.stat := by
  unfold collectStep
  cases getFloatValue node place.2 with
  | ok v => rfl
  | error e => cases suppress <;> rfl

/-- The metric loop's invariant: over keys visited once each and not yet in the map, a key
ends up in the map exactly when its path is read, with the value read. -/
theorem foldl_collectStep_stat_iff (suppress : Bool) (node : Object F) :
    ∀ (places : List (String × List String)) (acc : Collected F),
      (places.map Prod.fst).Nodup → (∀ e ∈ places, acc.stat e.1 = none) →
      ∀ k v, (places.foldl (collectStep suppress node) acc).stat k = some v ↔
        (∃ path, (k, path) ∈ places ∧ getFloatValue node path = .ok v) ∨ acc.stat k = some v
  | [], acc, _, _ => by simp
  | (k', path') :: rest, acc, nodup, fresh => by
      intro k v
      rw [List.map_cons, List.nodup_cons] at nodup
      have unchanged : ∀ j, j ≠ k' →
          (collectStep suppress node acc (k', path')).stat j = acc.stat j := by
        intro j ne
        rw [collectStep_stat]
        split <;> simp [GoMap.set_of_ne _ _ ne]
      have fresh' : ∀ e ∈ rest, (collectStep suppress node acc (k', path')).stat e.1 = none := by
        intro e mem
        rw [unchanged e.1 fun same => nodup.1 (List.mem_map.2 ⟨e, mem, same⟩)]
        exact fresh e (List.mem_cons_of_mem _ mem)
      rw [List.foldl_cons, foldl_collectStep_stat_iff suppress node rest _ nodup.2 fresh' k v]
      by_cases same : k = k'
      · subst same
        have absent : ∀ path, (k, path) ∉ rest := fun path mem =>
          nodup.1 (List.mem_map.2 ⟨(k, path), mem, rfl⟩)
        have before : acc.stat k = none := fresh (k, path') (List.mem_cons_self _ _)
        rw [collectStep_stat]
        cases read : getFloatValue node path' <;> simp [absent, before, read]
      · rw [unchanged k same]
        simp [same]

/-- The metric loop's map holds a metric exactly when its path is read, with the value
read, whatever the order of `places` and the logging setting. -/
theorem collect_stat_iff (suppress : Bool) (node : Object F) {places : List (String × List String)}
    (nodup : (places.map Prod.fst).Nodup) (k : String) (v : F) :
    (collect suppress node places).stat k = some v ↔
      ∃ path, (k, path) ∈ places ∧ getFloatValue node path = .ok v := by
  rw [collect, foldl_collectStep_stat_iff suppress node places _ nodup (fun _ _ => rfl)]
  simp

theorem metricPlace_keys_nodup : (metricPlace.map Prod.fst).Nodup := by decide

theorem metricPlace_paths_ne_nil : ∀ e ∈ metricPlace, e.2 ≠ [] := by decide

omit [OfNat F 0] in
theorem RangeOrder.places_keys_nodup (order : RangeOrder F) : (order.places.map Prod.fst).Nodup :=
  ((order.places_perm.map Prod.fst).nodup_iff).2 metricPlace_keys_nodup

/-! ## The whole call -/

section Fetch

variable (p : ElasticsearchPlugin) (order : RangeOrder F)
  {exchange : StatsRequest → Except String (Object F)}

theorem fetchMetrics_of_fetchNode_ok {node : Object F} (found : fetchNode p order exchange = .ok node) :
    fetchMetrics p order exchange = .ok (collect p.suppressMissingError node order.places) := by
  simp [fetchMetrics, found]

theorem fetchMetrics_of_fetchNode_error {e : Failure} (failed : fetchNode p order exchange = .error e) :
    fetchMetrics p order exchange = .error e := by
  simp [fetchMetrics, failed]

theorem fetchMetrics_ok {out : Collected F} (fetched : fetchMetrics p order exchange = .ok out) :
    ∃ node, fetchNode p order exchange = .ok node ∧
      out = collect p.suppressMissingError node order.places := by
  cases found : fetchNode p order exchange with
  | error e => simp [fetchMetrics_of_fetchNode_error p order found] at fetched
  | ok node =>
      rw [fetchMetrics_of_fetchNode_ok p order found] at fetched
      exact ⟨node, rfl, (Except.ok.inj fetched).symm⟩

theorem fetchMetrics_map_stat (exchange : StatsRequest → Except String (Object F)) :
    (fetchMetrics p order exchange).map (·.stat) =
      (fetchNode p order exchange).map fun node =>
        (collect p.suppressMissingError node order.places).stat := by
  unfold fetchMetrics
  cases fetchNode p order exchange <;> rfl

end Fetch

/-- A body whose `nodes` map holds one node that is a map: `FetchMetrics` succeeds, and its
map holds exactly the metrics whose path leads to a number, each with that number. -/
theorem fetchMetrics_single_node (p : ElasticsearchPlugin) (order : RangeOrder F)
    (exchange : StatsRequest → Except String (Object F)) (s : Object F) (id : String)
    (node : Object F) (decoded : exchange (statsRequest p) = .ok s)
    (single : s.index "nodes" = some (.object [(id, .object node)])) :
    ∃ out, fetchMetrics p order exchange = .ok out ∧
      ∀ name v, out.stat name = some v ↔
        ∃ path, (name, path) ∈ metricPlace ∧ followPath node path = some v := by
  refine ⟨_, fetchMetrics_of_fetchNode_ok p order (fetchNode_of_single_node p order decoded single),
    fun name v => ?_⟩
  rw [collect_stat_iff _ _ order.places_keys_nodup]
  refine exists_congr fun path => ?_
  rw [order.places_perm.mem_iff]
  refine and_congr_right fun mem => ?_
  obtain ⟨k, ks, rfl⟩ := List.exists_cons_of_ne_nil (metricPlace_paths_ne_nil _ mem)
  exact getFloatValue_ok_iff node k ks v

/-- One node holding `heap_used`, read in source order. -/
theorem fetchMetrics_single_node_heap_used :
    let p : ElasticsearchPlugin := ⟨"http://localhost:9200", "elasticsearch", "Elasticsearch",
      false, "", "", false⟩
    let node : Object Nat := [("jvm", .object [("mem", .object [("heap_used_in_bytes", .number 7)])])]
    let s : Object Nat := [("nodes", .object [("n1", .object node)])]
    (fun _ => .ok s : StatsRequest → Except String (Object Nat)) (statsRequest p) = .ok s ∧
      s.index "nodes" = some (.object [("n1", .object node)]) ∧
      ∃ out, fetchMetrics p RangeOrder.inSource (fun _ => .ok s) = .ok out ∧
        ∀ name v, out.stat name = some v ↔
          ∃ path, (name, path) ∈ metricPlace ∧ followPath node path = some v :=
  ⟨rfl, rfl, fetchMetrics_single_node _ _ _ _ _ _ rfl rfl⟩

/-- Bodies that decode without error yet stop `FetchMetrics` at a failed type assertion:
the error object of an authentication failure, `null`, `{"nodes":{}}` and
`{"nodes":{"id":1}}`, in every visiting order. -/
theorem fetchMetrics_panics_on_decoded_bodies (p : ElasticsearchPlugin) (order : RangeOrder Nat) :
    fetchMetrics p order (fun _ => .ok [("error", .object [("type", .string "security_exception")]),
        ("status", .number 401)]) = .error (assertionPanic (none : Option (Value Nat))) ∧
      fetchMetrics p order (fun _ => .ok []) = .error (assertionPanic (none : Option (Value Nat))) ∧
      fetchMetrics p order (fun _ => .ok [("nodes", .object [])]) =
        .error (assertionPanic (none : Option (Value Nat))) ∧
      fetchMetrics p order (fun _ => .ok [("nodes", .object [("id", .number 1)])]) =
        .error (assertionPanic (some (.number 1 : Value Nat))) :=
  ⟨fetchMetrics_of_fetchNode_error p order (fetchNode_of_nodes_not_object p order rfl (by rfl)
      fun _ => nofun),
    fetchMetrics_of_fetchNode_error p order (fetchNode_of_nodes_not_object p order rfl (by rfl)
      fun _ => nofun),
    fetchMetrics_of_fetchNode_error p order (fetchNode_of_no_node p order rfl (by rfl)),
    fetchMetrics_of_fetchNode_error p order
      ((fetchNode_of_single_node p order rfl (by rfl)).trans (by rfl))⟩

end Mackerel.Elasticsearch
