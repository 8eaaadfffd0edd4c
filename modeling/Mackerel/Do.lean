import Mackerel.Elasticsearch.GraphDefinition
import Mackerel.Haproxy.FetchMetrics
import Mackerel.PhpFpm.FetchMetrics

/-!
# Mackerel.Do — each plugin's settings from its flags

Each plugin's `Do` declares its flags with their defaults, lets `flag.Parse` set them and
builds the plugin value it hands to the helper.  A `Flags` record is what `flag.Parse`
leaves: one field per flag the plugin value or the helper's temp file reads, the flag's
default as the field's default, so `{}` is a run with no flags.

`helperTempfile_eq_iff`: without `-tempfile`, two Elasticsearch runs hand the helper the
same temp-file basename exactly when they watch the same host and port.
-/

namespace Mackerel

set_option autoImplicit false

/-- A list splits at its last `c` when what follows it holds no `c`. -/
theorem append_cons_inj_of_not_mem_tail {α : Type} {c : α} {p q : List α} (notin : c ∉ p)
    (notin' : c ∉ q) : ∀ {a b : List α}, a ++ c :: p = b ++ c :: q ↔ a = b ∧ p = q
  | [], [] => by simp
  | [], d :: b => by
      simp only [List.nil_append, List.cons_append, List.cons.injEq, List.nil_eq, reduceCtorEq,
        false_and, iff_false, not_and]
      rintro - rfl
      exact notin (List.mem_append_right b (List.mem_cons_self c q))
  | d :: a, [] => by
      simp only [List.nil_append, List.cons_append, List.cons.injEq, reduceCtorEq, false_and,
        iff_false, not_and]
      rintro - rfl
      exact notin' (List.mem_append_right a (List.mem_cons_self c p))
  | d :: a, e :: b => by
      simp only [List.cons_append, List.cons.injEq, append_cons_inj_of_not_mem_tail notin notin',
        and_assoc]

namespace Elasticsearch

/-- The flags of `Do` that the plugin value and the temp file read, each with its default. -/
structure Flags where
  scheme : String := "http"
  host : String := "localhost"
  port : String := "9200"
  metricKeyPrefix : String := "elasticsearch"
  metricLabelPrefix : String := ""
  tempfile : String := ""
  insecure : Bool := false
  user : String := ""
  password : String := ""
  suppressMissingError : Bool := false

/-- The `ElasticsearchPlugin` that `Do` builds; `title` is `strings.Title`. -/
def Flags.plugin (title : String → String) (f : Flags) : ElasticsearchPlugin where
  uri := f.scheme ++ "://" ++ f.host ++ ":" ++ f.port
  metricKeyPrefix := f.metricKeyPrefix
  labelPrefix := if f.metricLabelPrefix == "" then title f.metricKeyPrefix else f.metricLabelPrefix
  insecure := f.insecure
  user := f.user
  password := f.password
  suppressMissingError := f.suppressMissingError

/-- Where the helper keeps the values of the previous run, which it subtracts to draw the
`Diff` metrics. -/
inductive Tempfile where
  /-- `helper.Tempfile`: the file named by `-tempfile`. -/
  | path (file : String)
  /-- `helper.SetTempfileByBasename`: a file of this name in the helper's directory. -/
  | basename (base : String)
  deriving DecidableEq

/-- The temp file `Do` gives the helper: the `-tempfile` path, or a basename, which the
helper joins to its own directory. -/
def Flags.helperTempfile (f : Flags) : Tempfile :=
  if f.tempfile != "" then .path f.tempfile
  else .basename ("mackerel-plugin-elasticsearch-" ++ f.host ++ "-" ++ f.port)

/-- Without `-tempfile`, two runs hand the helper the same basename exactly when they watch
the same host and port, as long as neither port holds a `-`: the scheme, the prefixes and the
credentials do not enter it. -/
theorem helperTempfile_eq_iff {f g : Flags} (noFile : f.tempfile = "") (noFile' : g.tempfile = "")
    (port : '-' ∉ f.port.data) (port' : '-' ∉ g.port.data) :
    f.helperTempfile = g.helperTempfile ↔ f.host = g.host ∧ f.port = g.port := by
  simp only [Flags.helperTempfile, noFile, noFile', bne_self_eq_false, Bool.false_eq_true,
    if_false, Tempfile.basename.injEq, String.ext_iff, String.data_append, List.append_assoc,
    List.append_cancel_left_eq]
  exact append_cons_inj_of_not_mem_tail port port'

/-- A run over HTTPS with its own key prefix and a run with no flags, both on
`localhost:9200`: one basename. -/
theorem helperTempfile_https_and_default :
    ({ scheme := "https", metricKeyPrefix := "es" } : Flags).helperTempfile =
      ({} : Flags).helperTempfile :=
  (helperTempfile_eq_iff rfl rfl (by decide) (by decide)).2 ⟨rfl, rfl⟩

example : ({} : Flags).helperTempfile = .basename "mackerel-plugin-elasticsearch-localhost-9200" :=
  rfl

end Elasticsearch

namespace Haproxy

/-- The flags of `Do` that the plugin value reads, each with its default. -/
structure Flags where
  uri : String := ""
  scheme : String := "http"
  host : String := "localhost"
  port : String := "80"
  path : String := "/"
  username : String := ""
  password : String := ""
  socket : String := ""

/-- The `HAProxyPlugin` that `Do` builds from the zero value `var haproxy HAProxyPlugin`:
`URI` from `-uri` or from its parts, the other fields only from a flag that is not `""`. -/
def Flags.plugin (f : Flags) : HAProxyPlugin where
  uri := if f.uri != "" then f.uri else f.scheme ++ "://" ++ f.host ++ ":" ++ f.port ++ f.path
  username := if f.username != "" then f.username else ""
  password := if f.password != "" then f.password else ""
  socket := if f.socket != "" then f.socket else ""

end Haproxy

namespace PhpFpm

/-- The flags of `Do` that the plugin value reads, each with its default. -/
structure Flags where
  url : String := "http://localhost/status?json"
  metricKeyPrefix : String := "php-fpm"
  metricLabelPrefix : String := "PHP-FPM"
  timeout : UInt64 := 5
  fcgi : Bool := false

/-- The `PhpFpmPlugin` that `Do` builds. -/
def Flags.plugin (f : Flags) : PhpFpmPlugin :=
  ⟨f.url, f.metricKeyPrefix, f.metricLabelPrefix, f.timeout, f.fcgi⟩

end PhpFpm

end Mackerel
