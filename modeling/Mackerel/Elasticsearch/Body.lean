import Mackerel.Go.Decode
import Mackerel.Elasticsearch.Extract

/-!
# Mackerel.Elasticsearch.Body — from the text of the stats body to the metrics

`FetchMetrics` gets the map it reads from `client.Do(req)` and `decoder.Decode(&s)` into a
`map[string]interface{}`.  `statsExchange` builds that exchange from the round trip `http`,
which returns the body as the JSON scanner reads it; on it the theorems about `fetchMetrics`
become theorems about the text of the body:

* `followPath_decodeMembers`: a path through the decoded map reads `ParseFloat` of the
  literal `followLiteral` finds along it in the text;
* `fetchMetrics_number_refused`: one number `ParseFloat` refuses, anywhere in the body and
  under a key no metric reads as much as under one that does, makes the run return the
  decoder's error, whatever the settings and the visiting order (the error's text varies
  between Go releases, and the theorem does not fix it);
* `fetchMetrics_single_node_text`: on a body with one node whose numbers all parse, each
  metric is `ParseFloat` of the literal at the end of its path in the text, every key read
  from the last member that names it.
-/

namespace Mackerel.Elasticsearch

set_option autoImplicit false

variable {F : Type} (parseFloat : String → Option F)

/-- `decoder.Decode(&s)` for `var s map[string]interface{}`: `null` leaves `s` nil, which
reads as the empty map; an object is decoded member by member into a new map; any other
value is a type error. -/
def decodeStats : Document → Except String (Object F)
  | .error e => .error e
  | .ok .null => .ok []
  | .ok (.object members) => decodeMembers parseFloat members []
  | .ok v => .error ("json: cannot unmarshal " ++ v.kindName ++
      " into Go value of type map[string]interface \x7b\x7d")

/-- The `exchange` of `FetchMetrics` from its parts: `client.Do(req)`, with its error or the
body as the scanner reads it, then `decoder.Decode(&s)`. -/
def statsExchange (http : StatsRequest → Except String Document) (req : StatsRequest) :
    Except String (Object F) :=
  match http req with
  | .error e => .error e
  | .ok body => decodeStats parseFloat body

/-- The literal at the end of `path` among the members of an object of the text, each key
read from the last member that names it. -/
def followLiteral (members : List (String × Value String)) : List String → Option String
  | [] => none
  | [k] =>
      match Object.index members.reverse k with
      | some (.number lit) => some lit
      | _ => none
  | k :: k' :: ks =>
      match Object.index members.reverse k with
      | some (.object inner) => followLiteral inner (k' :: ks)
      | _ => none

/-- Along a path of the decoded map, `followPath` reads the number `ParseFloat` makes of the
literal `followLiteral` finds in the text. -/
theorem followPath_decodeMembers : ∀ (path : List String) (members : List (String × Value String))
    (m : Object F), decodeMembers parseFloat members [] = .ok m →
      followPath m path = (followLiteral members path).bind parseFloat
  | [], _, _, _ => rfl
  | k :: rest, members, m, decoded => by
      obtain ⟨absent, last⟩ := index_decodeMembers parseFloat members [] m decoded k
      cases found : Object.index members.reverse k with
      | none => cases rest <;> simp [followPath, followLiteral, found, absent found, Object.index]
      | some v =>
          obtain ⟨x, value, read⟩ := last v found
          cases v with
          | number lit =>
              cases parsed : parseFloat lit <;> simp [decodeValue, parsed] at value
              subst value
              cases rest <;> simp [followPath, followLiteral, read, found, parsed]
          | object inner =>
              obtain ⟨inner', decodedInner, rfl⟩ := (except_map_eq_ok _ _ _).1 value
              cases rest with
              | nil => simp [followPath, followLiteral, read, found]
              | cons k' ks =>
                  simpa [followPath, followLiteral, read, found] using
                    followPath_decodeMembers (k' :: ks) inner inner' decodedInner
          | array items =>
              obtain ⟨_, -, rfl⟩ := (except_map_eq_ok _ _ _).1 value
              cases rest <;> simp [followPath, followLiteral, read, found]
          | null | bool _ | string _ =>
              simp only [decodeValue, Except.ok.injEq] at value
              subst value
              cases rest <;> simp [followPath, followLiteral, read, found]

/-- On a body that is an object, the exchange is the decoding of its members. -/
theorem statsExchange_of_object (http : StatsRequest → Except String Document)
    {req : StatsRequest} {members : List (String × Value String)}
    (fetched : http req = .ok (.ok (.object members))) :
    statsExchange parseFloat http req = decodeMembers parseFloat members [] := by
  simp only [statsExchange, fetched, decodeStats]

/-- A body with one node: the decoded map's `nodes` member holds one node, the decoded
node's own members. -/
theorem statsExchange_of_single_node (http : StatsRequest → Except String Document)
    {req : StatsRequest} {members : List (String × Value String)}
    (fetched : http req = .ok (.ok (.object members)))
    (parses : ∀ lit ∈ membersNumbers members, (parseFloat lit).isSome) {id : String}
    {node : List (String × Value String)}
    (nodesMember : Object.index members.reverse "nodes" = some (.object [(id, .object node)])) :
    ∃ s node', statsExchange parseFloat http req = .ok s ∧
      s.index "nodes" = some (.object [(id, .object node')]) ∧
      decodeMembers parseFloat node [] = .ok node' := by
  obtain ⟨s, decoded⟩ := decodeMembers_ok_of_parses parseFloat members [] parses
  obtain ⟨x, value, read⟩ := (index_decodeMembers parseFloat members [] s decoded "nodes").2 _ nodesMember
  cases inner : decodeMembers parseFloat node [] with
  | error e => simp [decodeValue, decodeMembers, inner, Except.map] at value
  | ok node' =>
      simp only [decodeValue, decodeMembers, inner, Except.map, bind, Except.bind, Object.set,
        Except.ok.injEq] at value
      subst value
      exact ⟨s, node', (statsExchange_of_object parseFloat http fetched).trans decoded, read, rfl⟩

variable [OfNat F 0]

/-- One number `ParseFloat` refuses, anywhere in the body and whether or not a metric reads
it, makes the run return the decoder's error: no metric is sent, whatever the settings. -/
theorem fetchMetrics_number_refused (p : ElasticsearchPlugin) (order : RangeOrder F)
    (http : StatsRequest → Except String Document) {members : List (String × Value String)}
    (fetched : http (statsRequest p) = .ok (.ok (.object members))) {lit : String}
    (mem : lit ∈ membersNumbers members) (refused : parseFloat lit = none) :
    ∃ e, decodeMembers parseFloat members [] = .error e ∧
      fetchMetrics p order (statsExchange parseFloat http) = .error (.error e) := by
  obtain ⟨e, failed⟩ := (decodeMembers_fails_iff parseFloat members []).2 ⟨lit, mem, refused⟩
  exact ⟨e, failed, fetchMetrics_of_fetchNode_error p order (fetchNode_of_exchange_error p order
    ((statsExchange_of_object parseFloat http fetched).trans failed))⟩

/-- `{"nodes":{"n1":{"jvm":{"heap_used_in_bytes":7}}},"cluster_name":1e400}` with a
`ParseFloat` that reads decimal digits only: the literal under `cluster_name`, which no
metric reads, fails the run. -/
theorem fetchMetrics_number_refused_out_of_range :
    let members : List (String × Value String) :=
      [("nodes", .object [("n1", .object [("jvm", .object [("heap_used_in_bytes", .number "7")])])]),
       ("cluster_name", .number "1e400")]
    let http : StatsRequest → Except String Document := fun _ => .ok (.ok (.object members))
    let p : ElasticsearchPlugin := ⟨"http://localhost:9200", "elasticsearch", "Elasticsearch",
      false, "", "", false⟩
    "1e400" ∈ membersNumbers members ∧ decimal "1e400".toList = none ∧
      ∃ e, decodeMembers (fun lit => decimal lit.toList) members [] = .error e ∧
        fetchMetrics p RangeOrder.inSource (statsExchange (fun lit => decimal lit.toList) http) =
          .error (.error e) := by
  intro members http p
  have mem : "1e400" ∈ membersNumbers members := by decide
  have refused : decimal "1e400".toList = none := by decide
  exact ⟨mem, refused, fetchMetrics_number_refused (fun lit => decimal lit.toList) p
    RangeOrder.inSource http rfl mem refused⟩

/-- A body with one node whose numbers all parse: the run succeeds, and each metric is
`ParseFloat` of the literal at the end of its path in the node's text, every key read from
the last member that names it; a metric whose path leads to no number is not in the map. -/
theorem fetchMetrics_single_node_text (p : ElasticsearchPlugin) (order : RangeOrder F)
    (http : StatsRequest → Except String Document) {members : List (String × Value String)}
    (fetched : http (statsRequest p) = .ok (.ok (.object members)))
    (parses : ∀ lit ∈ membersNumbers members, (parseFloat lit).isSome) {id : String}
    {node : List (String × Value String)}
    (nodesMember : Object.index members.reverse "nodes" = some (.object [(id, .object node)])) :
    ∃ out, fetchMetrics p order (statsExchange parseFloat http) = .ok out ∧
      ∀ name, out.stat name = ((metricPlace.lookup name).bind (followLiteral node)).bind parseFloat := by
  obtain ⟨s, node', exchanged, single, decoded⟩ :=
    statsExchange_of_single_node parseFloat http fetched parses nodesMember
  refine ⟨_, fetchMetrics_of_fetchNode_ok p order (fetchNode_of_single_node p order exchanged single),
    fun name => ?_⟩
  rw [collect_stat_eq_extract _ _ order.places_perm, extract, Option.bind_assoc]
  simp only [followPath_decodeMembers parseFloat _ node node' decoded]

/-- A node that writes `heap_used_in_bytes` twice: the metric is the last one. -/
theorem fetchMetrics_single_node_text_heap_used_twice :
    let members : List (String × Value String) := [("nodes", .object [("n1", .object
      [("jvm", .object [("mem", .object
        [("heap_used_in_bytes", .number "5"), ("heap_used_in_bytes", .number "7")])])])])]
    let http : StatsRequest → Except String Document := fun _ => .ok (.ok (.object members))
    let p : ElasticsearchPlugin := ⟨"http://localhost:9200", "elasticsearch", "Elasticsearch",
      false, "", "", false⟩
    (∀ lit ∈ membersNumbers members, (decimal lit.toList).isSome) ∧
      ∃ out, fetchMetrics p RangeOrder.inSource (statsExchange (fun lit => decimal lit.toList) http) =
          .ok out ∧ out.stat "heap_used" = some 7 := by
  intro members http p
  have parses : ∀ lit ∈ membersNumbers members, (decimal lit.toList).isSome := by decide
  obtain ⟨out, run, stat⟩ := fetchMetrics_single_node_text (fun lit => decimal lit.toList) p
    RangeOrder.inSource http rfl parses rfl
  exact ⟨parses, out, run, (stat "heap_used").trans rfl⟩

end Mackerel.Elasticsearch
