import Mackerel.Elasticsearch.FetchMetrics
import Mathlib.Data.List.Perm.Basic

/-!
# Mackerel.Elasticsearch.GraphDefinition — the graphs the metrics are drawn in

`GraphDefinition` declares ten graphs whose keys and labels carry the plugin's prefixes;
the plugin library reports a metric of `FetchMetrics` only through the graph that names
it.  `mem_metricNames_graphDefinition`: whatever the prefixes, the graphs name exactly the
metrics of `metricPlace` (each once, `graphs_names_perm`), so `fetchMetrics_keys_declared`:
every metric `FetchMetrics` returns is declared.
-/

namespace Mackerel.Elasticsearch

set_option autoImplicit false

/-- The graphs of `GraphDefinition`: key suffix, label suffix, unit and metrics. -/
def graphs : List (String × String × String × List Metrics) :=
  [(".http", " HTTP", "integer",
     [{ name := "http_opened", label := "Opened", diff := true }]),
    (".indices", " Indices", "integer",
     [{ name := "total_indexing_index", label := "Indexing-Index", diff := true, stacked := true },
      { name := "total_indexing_delete", label := "Indexing-Delete", diff := true, stacked := true },
      { name := "total_get", label := "Get", diff := true, stacked := true },
      { name := "total_search_query", label := "Search-Query", diff := true, stacked := true },
      { name := "total_search_fetch", label := "Search-fetch", diff := true, stacked := true },
      { name := "total_merges", label := "Merges", diff := true, stacked := true },
      { name := "total_refresh", label := "Refresh", diff := true, stacked := true },
      { name := "total_flush", label := "Flush", diff := true, stacked := true },
      { name := "total_warmer", label := "Warmer", diff := true, stacked := true },
      { name := "total_percolate", label := "Percolate", diff := true, stacked := true },
      { name := "total_suggest", label := "Suggest", diff := true, stacked := true }]),
    (".indices.docs", " Indices Docs", "integer",
     [{ name := "docs_count", label := "Count", stacked := true },
      { name := "docs_deleted", label := "Deleted", stacked := true }]),
    (".indices.memory_size", " Indices Memory Size", "bytes",
     [{ name := "fielddata_size", label := "Fielddata", stacked := true },
      { name := "filter_cache_size", label := "Filter Cache", stacked := true },
      { name := "segments_size", label := "Lucene Segments", stacked := true },
      { name := "segments_index_writer_size", label := "Lucene Segments Index Writer", stacked := true },
      { name := "segments_version_map_size", label := "Lucene Segments Version Map", stacked := true },
      { name := "segments_fixed_bit_set_size", label := "Lucene Segments Fixed Bit Set", stacked := true }]),
    (".indices.evictions", " Indices Evictions", "integer",
     [{ name := "evictions_fielddata", label := "Fielddata", diff := true },
      { name := "evictions_filter_cache", label := "Filter Cache", diff := true }]),
    (".jvm.heap", " JVM Heap Mem", "bytes",
     [{ name := "heap_used", label := "Used" },
      { name := "heap_max", label := "Max" }]),
    (".thread_pool.threads", " Thread-Pool Threads", "integer",
     [{ name := "threads_generic", label := "Generic", stacked := true },
      { name := "threads_index", label := "Index", stacked := true },
      { name := "threads_snapshot_data", label := "Snapshot Data", stacked := true },
      { name := "threads_get", label := "Get", stacked := true },
      { name := "threads_bench", label := "Bench", stacked := true },
      { name := "threads_snapshot", label := "Snapshot", stacked := true },
      { name := "threads_merge", label := "Merge", stacked := true },
      { name := "threads_suggest", label := "Suggest", stacked := true },
      { name := "threads_bulk", label := "Bulk", stacked := true },
      { name := "threads_optimize", label := "Optimize", stacked := true },
      { name := "threads_warmer", label := "Warmer", stacked := true },
      { name := "threads_flush", label := "Flush", stacked := true },
      { name := "threads_search", label := "Search", stacked := true },
      { name := "threads_percolate", label := "Percolate", stacked := true },
      { name := "threads_refresh", label := "Refresh", stacked := true },
      { name := "threads_management", label := "Management", stacked := true },
      { name := "threads_fetch_shard_started", label := "Fetch Shard Started", stacked := true },
      { name := "threads_fetch_shard_store", label := "Fetch Shard Store", stacked := true },
      { name := "threads_listener", label := "Listener", stacked := true }]),
    (".transport.count", " Transport Count", "integer",
     [{ name := "count_rx", label := "TX", diff := true },
      { name := "count_tx", label := "RX", diff := true }]),
    (".process", " Process", "integer",
     [{ name := "open_file_descriptors", label := "Open File Descriptors" }]),
    (".script", " Script", "integer",
     [{ name := "compilations", label := "Compilations", diff := true },
      { name := "cache_evictions", label := "Cache Evictions", diff := true },
      { name := "compilation_limit_triggered", label := "Compilation Limit Triggered", diff := true }])]

/-- `ElasticsearchPlugin.GraphDefinition`. -/
def graphDefinition (p : ElasticsearchPlugin) : List (String × Graphs) :=
  graphs.map fun (key, label, unit, metrics) =>
    (p.metricKeyPrefix ++ key, ⟨p.labelPrefix ++ label, unit, metrics⟩)

theorem metricNames_graphDefinition (p : ElasticsearchPlugin) :
    metricNames (graphDefinition p) = graphs.flatMap fun g => g.2.2.2.map (·.name) := by
  simp [metricNames, graphDefinition, List.flatMap_map]

theorem graphs_names_perm :
    (graphs.flatMap fun g => g.2.2.2.map (·.name)).Perm (metricPlace.map Prod.fst) := by
  decide

theorem mem_metricNames_graphDefinition (p : ElasticsearchPlugin) (k : String) :
    k ∈ metricNames (graphDefinition p) ↔ k ∈ metricPlace.map Prod.fst := by
  rw [metricNames_graphDefinition]
  exact graphs_names_perm.mem_iff

/-- Every metric `FetchMetrics` returns is one `GraphDefinition` declares. -/
theorem fetchMetrics_keys_declared {F : Type} [OfNat F 0] (p : ElasticsearchPlugin)
    (order : RangeOrder F) (exchange : StatsRequest → Except String (Object F))
    {out : Collected F} (fetched : fetchMetrics p order exchange = .ok out) {k : String}
    (present : (out.stat k).isSome) : k ∈ metricNames (graphDefinition p) := by
  obtain ⟨node, -, rfl⟩ := fetchMetrics_ok p order fetched
  obtain ⟨v, read⟩ := Option.isSome_iff_exists.1 present
  obtain ⟨path, mem, -⟩ := (collect_stat_iff _ _ order.places_keys_nodup k v).1 read
  exact (mem_metricNames_graphDefinition p k).2
    (List.mem_map.2 ⟨(k, path), order.places_perm.mem_iff.1 mem, rfl⟩)

/-- A run that reports `heap_used`, a declared metric. -/
theorem fetchMetrics_keys_declared_heap_used :
    let p : ElasticsearchPlugin := ⟨"http://localhost:9200", "elasticsearch", "Elasticsearch",
      false, "", "", false⟩
    let s : Object Nat := [("nodes", .object [("n1", .object
      [("jvm", .object [("mem", .object [("heap_used_in_bytes", .number 7)])])])])]
    ∃ out, fetchMetrics p RangeOrder.inSource (fun _ => .ok s) = .ok out ∧
      (out.stat "heap_used").isSome ∧ "heap_used" ∈ metricNames (graphDefinition p) := by
  intro p s
  exact ⟨_, rfl, by decide,
    fetchMetrics_keys_declared p RangeOrder.inSource (fun _ => .ok s) rfl (by decide)⟩

end Mackerel.Elasticsearch
