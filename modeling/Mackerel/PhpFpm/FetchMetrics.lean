import Mackerel.PhpFpm.Unmarshal

/-!
# Mackerel.PhpFpm.FetchMetrics — nine counters of the status page

`getStatus` fetches the status page, unmarshals it into a nil `*PhpFpmStatus`, drops the
error `json.Unmarshal` returns and hands back the pointer; `FetchMetrics` reads nine
counters through it.  So the pointer, not the error, decides the outcome:

* `fetchMetrics_panics_iff`: the call dereferences a nil pointer exactly when the body is
  not JSON or is `null`;
* `fetchMetrics_ok_iff`: it returns metrics exactly when the body is any other JSON value,
  whether or not `json.Unmarshal` refused part or all of it;
* `fetchMetrics_of_object`: on an object, each metric is the last number a member stores
  into its field, or `0`;
* `metrics_apply`: the nine keys, each read from its counter;
* `statusRequest_deadline_iff`: the client waits at most `Timeout` seconds only while
  `0 < Timeout < 9223372037`; past that bound the `int64` product wraps.
-/

namespace Mackerel.PhpFpm

set_option autoImplicit false

/-- The settings of a `PhpFpmPlugin`. -/
structure PhpFpmPlugin where
  url : String
  /-- `Prefix`, the metric key prefix. -/
  metricKeyPrefix : String
  labelPrefix : String
  /-- `Timeout`, in seconds: a Go `uint`, 64 bits wide. -/
  timeout : UInt64
  fastCGI : Bool

/-- The request `getStatus` sends, with the settings of its client. -/
structure StatusRequest where
  url : String
  userAgent : String
  /-- The client's `Timeout`, in nanoseconds. -/
  timeout : Int
  fastCGI : Bool

/-- `time.Duration(time.Duration(p.Timeout) * time.Second)`: the `uint` converted to an
`int64` and multiplied by `10^9` in `int64`. -/
def timeoutDuration (timeout : UInt64) : Int :=
  wrapInt64 (wrapInt64 timeout.toNat * 1000000000)

/-- `http.NewRequest(GET, url, nil)`, its `User-Agent`, the client's timeout and, with
`FastCGI`, the FastCGI transport. -/
def statusRequest (p : PhpFpmPlugin) : StatusRequest :=
  ⟨p.url, "mackerel-plugin-php-fpm", timeoutDuration p.timeout, p.fastCGI⟩

/-- `getStatus`.  `exchange` is the round trip and `ioutil.ReadAll`: their error, or the
body.  The error of `json.Unmarshal` is not read. -/
def getStatus (p : PhpFpmPlugin) (exchange : StatusRequest → Except String Body) :
    Except String (Option PhpFpmStatus) :=
  match exchange (statusRequest p) with
  | .error e => .error e
  | .ok body => .ok (unmarshal none body).1

/-! ## The client's deadline -/

/-- The duration is `Timeout` seconds exactly while `Timeout * 10^9` fits in an `int64`. -/
theorem timeoutDuration_eq_iff (timeout : UInt64) :
    timeoutDuration timeout = (timeout.toNat : Int) * 1000000000 ↔
      timeout.toNat < 9223372037 := by
  have bound := timeout.toNat_lt_size
  simp only [timeoutDuration, wrapInt64, UInt64.size] at *
  omega

/-- The client gives up after `Timeout` seconds exactly when `0 < Timeout < 9223372037`: a
zero `Timeout` sets no deadline, and from `9223372037` on the product wraps. -/
theorem statusRequest_deadline_iff (p : PhpFpmPlugin) :
    deadline (statusRequest p).timeout = some ((p.timeout.toNat : Int) * 1000000000) ↔
      0 < p.timeout.toNat ∧ p.timeout.toNat < 9223372037 := by
  rw [statusRequest, deadline_eq_some_iff, ← timeoutDuration_eq_iff]
  exact and_congr_left fun exact => by omega

example : deadline (timeoutDuration 0) = none ∧ timeoutDuration 9223372037 < 0 := by decide

/-! ## The metrics -/

/-- The keys of the map `FetchMetrics` returns, each with the counter it reads. -/
def metricFields : List (String × Counter) :=
  [("total_processes", .totalProcesses), ("active_processes", .activeProcesses),
    ("idle_processes", .idleProcesses), ("max_active_processes", .maxActiveProcesses),
    ("max_children_reached", .maxChildrenReached), ("listen_queue", .listenQueue),
    ("listen_queue_len", .listenQueueLen), ("max_listen_queue", .maxListenQueue),
    ("slow_requests", .slowRequests)]

/-- The map literal `FetchMetrics` returns. -/
def metrics (status : PhpFpmStatus) : GoMap UInt64 :=
  fun k => (metricFields.find? (·.1 == k)).map fun e => status.counter e.2

/-- The run-time panic of reading a field through a nil pointer. -/
def nilDereference : Failure :=
  .panic "runtime error: invalid memory address or nil pointer dereference"

/-- `PhpFpmPlugin.FetchMetrics`. -/
def fetchMetrics (p : PhpFpmPlugin) (exchange : StatusRequest → Except String Body) :
    Except Failure (GoMap UInt64) :=
  match getStatus p exchange with
  | .error e => .error (.error ("Failed to fetch PHP-FPM metrics: " ++ e))
  | .ok none => .error nilDereference
  | .ok (some status) => .ok (metrics status)

/-- `PhpFpmPlugin.GraphDefinition`. -/
def graphDefinition (p : PhpFpmPlugin) : List (String × Graphs) :=
  [("processes", ⟨p.labelPrefix ++ " Processes", "integer",
      [{ name := "total_processes", label := "Total Processes", type := "uint64" },
        { name := "active_processes", label := "Active Processes", type := "uint64" },
        { name := "idle_processes", label := "Idle Processes", type := "uint64" }]⟩),
    ("max_active_processes", ⟨p.labelPrefix ++ " Max Active Processes", "integer",
      [{ name := "max_active_processes", label := "Max Active Processes", type := "uint64" }]⟩),
    ("max_children_reached", ⟨p.labelPrefix ++ " Max Children Reached", "integer",
      [{ name := "max_children_reached", label := "Max Children Reached", type := "uint64" }]⟩),
    ("queue", ⟨p.labelPrefix ++ " Queue", "integer",
      [{ name := "listen_queue", label := "Listen Queue", type := "uint64" },
        { name := "listen_queue_len", label := "Listen Queue Len", type := "uint64" }]⟩),
    ("max_listen_queue", ⟨p.labelPrefix ++ " Max Listen Queue", "integer",
      [{ name := "max_listen_queue", label := "Max Listen Queue", type := "uint64" }]⟩),
    ("slow_requests", ⟨p.labelPrefix ++ " Slow Requests", "integer",
      [{ name := "slow_requests", label := "Slow Requests", type := "uint64" }]⟩)]

/-- The graphs declare the keys of `metricFields`, in order. -/
theorem metricNames_graphDefinition (p : PhpFpmPlugin) :
    metricNames (graphDefinition p) = metricFields.map Prod.fst := rfl

theorem metrics_isSome_iff (status : PhpFpmStatus) (k : String) :
    (metrics status k).isSome ↔ k ∈ metricFields.map Prod.fst := by
  simp only [metrics, Option.isSome_map', List.find?_isSome, List.mem_map, beq_iff_eq]

theorem metrics_apply (status : PhpFpmStatus) {k : String} {c : Counter}
    (mem : (k, c) ∈ metricFields) : metrics status k = some (status.counter c) := by
  simp only [metricFields, List.mem_cons, Prod.mk.injEq, List.mem_singleton,
    List.not_mem_nil, or_false] at mem
  rcases mem with ⟨rfl, rfl⟩ | ⟨rfl, rfl⟩ | ⟨rfl, rfl⟩ | ⟨rfl, rfl⟩ | ⟨rfl, rfl⟩ | ⟨rfl, rfl⟩ |
    ⟨rfl, rfl⟩ | ⟨rfl, rfl⟩ | ⟨rfl, rfl⟩ <;> rfl

section Outcome

variable (p : PhpFpmPlugin) (exchange : StatusRequest → Except String Body)

theorem fetchMetrics_of_body {body : Body} (fetched : exchange (statusRequest p) = .ok body) :
    fetchMetrics p exchange =
      match (unmarshal none body).1 with
      | none => .error nilDereference
      | some status => .ok (metrics status) := by
  simp only [fetchMetrics, getStatus, fetched]
  cases (unmarshal none body).1 <;> rfl

/-- `FetchMetrics` dereferences the nil pointer exactly on a body that is not JSON or is
`null`. -/
theorem fetchMetrics_panics_iff :
    fetchMetrics p exchange = .error nilDereference ↔
      exchange (statusRequest p) = .ok none ∨ exchange (statusRequest p) = .ok (some .null) := by
  cases fetched : exchange (statusRequest p) with
  | error e => simp [fetchMetrics, getStatus, fetched, nilDereference]
  | ok body =>
      rw [fetchMetrics_of_body p exchange fetched]
      have nil := unmarshal_nil_iff body
      split <;> simp_all

/-- It returns metrics exactly on a body that is JSON and not `null`, whatever
`json.Unmarshal` made of it. -/
theorem fetchMetrics_ok_iff :
    (∃ m, fetchMetrics p exchange = .ok m) ↔
      ∃ v, exchange (statusRequest p) = .ok (some v) ∧ v ≠ .null := by
  cases fetched : exchange (statusRequest p) with
  | error e => simp only [fetchMetrics, getStatus, fetched, reduceCtorEq, exists_false, false_and]
  | ok body =>
      have json : (∃ v, (.ok body : Except String Body) = .ok (some v) ∧ v ≠ .null) ↔
          ¬(body = none ∨ body = some .null) := by
        rcases body with _ | v <;> simp
      rw [fetchMetrics_of_body p exchange fetched, json, ← unmarshal_nil_iff]
      cases (unmarshal none body).1 <;>
        simp only [reduceCtorEq, exists_false, Except.ok.injEq, exists_eq', not_true_eq_false,
          not_false_eq_true]

theorem fetchMetrics_ok {m : GoMap UInt64} (fetched : fetchMetrics p exchange = .ok m) :
    ∃ status, m = metrics status := by
  unfold fetchMetrics at fetched
  split at fetched <;> first | exact ⟨_, (Except.ok.inj fetched).symm⟩ | cases fetched

/-- The map `FetchMetrics` returns holds exactly the metrics `GraphDefinition` declares. -/
theorem fetchMetrics_keys_eq_graph_metrics {m : GoMap UInt64}
    (fetched : fetchMetrics p exchange = .ok m) (k : String) :
    (m k).isSome ↔ k ∈ metricNames (graphDefinition p) := by
  obtain ⟨status, rfl⟩ := fetchMetrics_ok p exchange fetched
  rw [metrics_isSome_iff, metricNames_graphDefinition]

end Outcome

/-- An HTML error page and `null` make `FetchMetrics` dereference the nil pointer
`getStatus` returns; an object with a string where a counter belongs, and an array, are
refused by `json.Unmarshal`, yet `FetchMetrics` returns the zero counters for them. -/
theorem fetchMetrics_unchecked_unmarshal (p : PhpFpmPlugin) :
    fetchMetrics p (fun _ => .ok none) = .error nilDereference ∧
      fetchMetrics p (fun _ => .ok (some .null)) = .error nilDereference ∧
      (unmarshal none (some (.object [("total processes", .string "12")]))).2 =
        some (.type "string" (some (.counter .totalProcesses))) ∧
      fetchMetrics p (fun _ => .ok (some (.object [("total processes", .string "12")]))) =
        .ok (metrics .zero) ∧
      (unmarshal none (some (.array []))).2 = some (.type "array" none) ∧
      fetchMetrics p (fun _ => .ok (some (.array []))) = .ok (metrics .zero) :=
  ⟨rfl, rfl, rfl, rfl, rfl, rfl⟩

end Mackerel.PhpFpm
