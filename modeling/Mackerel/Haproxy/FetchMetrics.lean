import Mackerel.Haproxy.ParseStats

/-!
# Mackerel.Haproxy.FetchMetrics — the statistics over HTTP or over the stats socket

`HAProxyPlugin.FetchMetrics` reads the CSV statistics from the stats socket when one is
configured and from the stats page otherwise, and hands the records to `parseStats`.
The transports are parameters: `http` is the round trip of `client.Do` with the records
`encoding/csv` reads from the body, `dial` the connection to the socket, the write of the
command and the records of the reply.

* `fetchMetrics_ok`: a run that returns a map returns the one `parseStats` makes of some
  records, so `parseStats_keys_backend` and `fetchMetrics_keys_in_graphdef`: every key it
  holds is a metric `graphdef` declares;
* `parseStats_drop_other_row`: a row of 60 columns or more that is not a BACKEND row can
  be taken out of any input without changing the outcome.
-/

namespace Mackerel.Haproxy

set_option autoImplicit false

/-- The settings of an `HAProxyPlugin`. -/
structure HAProxyPlugin where
  uri : String
  username : String
  password : String
  socket : String

/-- The request `fetchMetricsFromTCP` sends, with the timeout of its client. -/
structure CsvRequest where
  url : String
  basicAuth : Option (String × String)
  /-- The client's `Timeout`, in nanoseconds. -/
  timeout : Int

/-- `http.NewRequest("GET", p.URI + ";csv;norefresh", nil)`, its basic auth and the
client's `time.Duration(5) * time.Second`. -/
def csvRequest (p : HAProxyPlugin) : CsvRequest :=
  ⟨p.uri ++ ";csv;norefresh", if p.username != "" then some (p.username, p.password) else none,
    5000000000⟩

/-- A response: its status code and status line, and the records read from its body. -/
structure CsvResponse where
  statusCode : Nat
  status : String
  body : List ReadResult

variable {F : Type} [OfNat F 0] [Add F] (parseFloat : String → Option F)

/-- `fetchMetricsFromTCP`. -/
def fetchMetricsFromTCP (p : HAProxyPlugin) (http : CsvRequest → Except String CsvResponse) :
    Except String (GoMap F) :=
  match http (csvRequest p) with
  | .error e => .error e
  | .ok resp =>
      if resp.statusCode != 200 then
        .error ("Request failed. Status: " ++ resp.status ++ ", URI: " ++ (csvRequest p).url)
      else parseStats parseFloat resp.body

/-- `fetchMetricsFromSocket`: `dial` gets the socket path and the command written to it. -/
def fetchMetricsFromSocket (p : HAProxyPlugin)
    (dial : String → String → Except String (List ReadResult)) : Except String (GoMap F) :=
  match dial p.socket "show stat\n" with
  | .error e => .error e
  | .ok reads => parseStats parseFloat reads

/-- `HAProxyPlugin.FetchMetrics`. -/
def fetchMetrics (p : HAProxyPlugin) (http : CsvRequest → Except String CsvResponse)
    (dial : String → String → Except String (List ReadResult)) : Except String (GoMap F) :=
  if p.socket == "" then fetchMetricsFromTCP parseFloat p http
  else fetchMetricsFromSocket parseFloat p dial

/-- `graphdef`, which `GraphDefinition` returns. -/
def graphdef : List (String × Graphs) :=
  [("haproxy.total.sessions", ⟨"HAProxy Total Sessions", "integer",
      [{ name := "sessions", label := "Sessions", diff := true }]⟩),
    ("haproxy.total.bytes", ⟨"HAProxy Total Bytes", "integer",
      [{ name := "bytes_in", label := "Bytes In", diff := true },
        { name := "bytes_out", label := "Bytes Out", diff := true }]⟩),
    ("haproxy.total.connection_errors", ⟨"HAProxy Total Connection Errors", "integer",
      [{ name := "connection_errors", label := "Connection Errors", diff := true }]⟩)]

/-- The graphs declare the keys of `backendColumns`, in order. -/
theorem metricNames_graphdef : metricNames graphdef = backendColumns.map Prod.fst := rfl

/-- A run that returns a map returns what `parseStats` made of some records. -/
theorem fetchMetrics_ok {p : HAProxyPlugin} {http : CsvRequest → Except String CsvResponse}
    {dial : String → String → Except String (List ReadResult)} {stat : GoMap F}
    (fetched : fetchMetrics parseFloat p http dial = .ok stat) :
    ∃ reads, parseStats parseFloat reads = .ok stat := by
  unfold fetchMetrics fetchMetricsFromTCP fetchMetricsFromSocket at fetched
  repeat' split at fetched
  all_goals first | exact ⟨_, fetched⟩ | cases fetched

/-- A map `parseStats` returns holds the keys of `backendColumns` only. -/
theorem parseStats_keys_backend {reads : List ReadResult} {stat : GoMap F}
    (parsed : parseStats parseFloat reads = .ok stat) {k : String} (present : (stat k).isSome) :
    k ∈ backendColumns.map Prod.fst := by
  have good : ∀ r ∈ reads, ¬BadRecord parseFloat r.columns := fun r mem bad =>
    absurd ((parseStats_error_iff_exists_bad parseFloat reads).2 ⟨r, mem, bad⟩) (by simp [parsed])
  rw [parseStats_ok_of_good parseFloat reads good] at parsed
  by_contra other
  rw [← Except.ok.inj parsed, addRows_apply_of_not_mem parseFloat other] at present
  exact absurd present (by simp)

/-- Every key `FetchMetrics` returns is a metric `graphdef` declares. -/
theorem fetchMetrics_keys_in_graphdef (p : HAProxyPlugin)
    (http : CsvRequest → Except String CsvResponse)
    (dial : String → String → Except String (List ReadResult)) {stat : GoMap F}
    (fetched : fetchMetrics parseFloat p http dial = .ok stat) {k : String}
    (present : (stat k).isSome) : k ∈ metricNames graphdef := by
  obtain ⟨reads, parsed⟩ := fetchMetrics_ok parseFloat fetched
  rw [metricNames_graphdef]
  exact parseStats_keys_backend parseFloat parsed present

/-- A run over the stats page that reports `sessions`, a declared metric. -/
theorem fetchMetrics_keys_in_graphdef_sessions :
    let http : CsvRequest → Except String CsvResponse := fun _ =>
      .ok ⟨200, "200 OK", [.ofRecord ("b" :: "BACKEND" :: List.replicate 58 "1")]⟩
    let dial : String → String → Except String (List ReadResult) := fun _ _ => .error ""
    let parse := fun s : String => decimal s.toList
    let p : HAProxyPlugin := ⟨"http://localhost:80/", "", "", ""⟩
    ∃ stat, fetchMetrics parse p http dial = .ok stat ∧ (stat "sessions").isSome ∧
      "sessions" ∈ metricNames graphdef := by
  intro http dial parse p
  exact ⟨_, rfl, by decide, fetchMetrics_keys_in_graphdef parse p http dial rfl (by decide)⟩

/-- A row of at least 60 columns that is not a BACKEND row never changes the outcome. -/
theorem parseStats_drop_other_row (before after : List ReadResult) (r : ReadResult)
    (wide : 60 ≤ r.columns.length) (other : isBackend r.columns = false) :
    parseStats parseFloat (before ++ r :: after) = parseStats parseFloat (before ++ after) := by
  simp only [parseStats, List.foldlM_append, List.foldlM_cons]
  cases before.foldlM (fun stat r => parseRecord parseFloat stat r.columns) GoMap.empty with
  | error e => rfl
  | ok stat => simp [parseRecord_of_other stat wide other]

/-- Dropping a 60-column header in front of a BACKEND row. -/
theorem parseStats_drop_other_row_header :
    let header : ReadResult := .ofRecord (List.replicate 60 "x")
    let row : ReadResult := .ofRecord ("b" :: "BACKEND" :: List.replicate 58 "1")
    let parse := fun s : String => decimal s.toList
    60 ≤ header.columns.length ∧ isBackend header.columns = false ∧
      parseStats parse ([] ++ header :: [row]) = parseStats parse ([] ++ [row]) :=
  ⟨by decide, by decide, parseStats_drop_other_row _ _ _ _ (by decide) (by decide)⟩

end Mackerel.Haproxy
