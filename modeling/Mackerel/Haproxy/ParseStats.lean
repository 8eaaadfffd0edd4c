import Mackerel.Go.Basic

/-!
# Mackerel.Haproxy.ParseStats — the BACKEND rows of HAProxy's CSV statistics, summed

`HAProxyPlugin.parseStats` reads HAProxy's `show stat` CSV with `encoding/csv` and adds
four columns of every row whose second column is `BACKEND` into four keys of a fresh map.
A record is what one `reader.Read()` returns before `io.EOF` (`ReadResult`): its columns,
and the error `encoding/csv` returns beside them (`ErrFieldCount`, a `ParseError` with the
fields read before it, or an error of the underlying body).  `ParseFloat` is a parameter:
the loop only asks whether it accepts a column, and adds what it returns.

The loop body is `parseRecord`; its three outcomes are `parseRecord_of_short`,
`parseRecord_of_other` and `parseRecord_of_backend`.  From them:

* `parseRecord_error_iff`: one record fails the run exactly when it is short, or is a
  BACKEND row with a column `ParseFloat` rejects, whatever was summed before it;
* `parseStats_ok_of_good`: on records that do not fail, the run returns the BACKEND rows
  added up by `addRow`, one row after the other;
* `addRows_apply_of_mem`, `addRows_apply_of_not_mem`: per key, that is the left-to-right
  sum of the key's column, present from the first BACKEND row on.

The error `reader.Read()` returns beside a record is compared with `io.EOF` only
(`parseStats_ignores_read_errors`).
-/

namespace Mackerel.Haproxy

set_option autoImplicit false

/-! ## What the reader hands the loop -/

/-- One call of `reader.Read()` that did not return `io.EOF`. -/
structure ReadResult where
  columns : List String
  /-- The non-EOF error returned beside the record, if any. -/
  err : Option String
  deriving DecidableEq, Repr

/-- A record read without error. -/
def ReadResult.ofRecord (columns : List String) : ReadResult := ⟨columns, none⟩

@[simp] theorem ReadResult.ofRecord_columns (columns : List String) :
    (ReadResult.ofRecord columns).columns = columns := rfl

/-- The text of the `ParseError` wrapping `ErrFieldCount` for the record on line `line`. -/
def fieldCountError (line : Nat) : String :=
  "record on line " ++ toString line ++ ": wrong number of fields"

/-- `csv.NewReader` with `FieldsPerRecord` left at zero, over a body of one record per line
from line `line` on: the first record fixes the field count, and a later record of another
length is returned with `ErrFieldCount`. -/
def readRecords : Option Nat → Nat → List (List String) → List ReadResult
  | _, _, [] => []
  | none, line, r :: rs => .ofRecord r :: readRecords (some r.length) (line + 1) rs
  | some n, line, r :: rs =>
      ⟨r, if r.length = n then none else some (fieldCountError line)⟩ ::
        readRecords (some n) (line + 1) rs

/-! ## The loop -/

variable {F : Type} [OfNat F 0] [Add F] (parseFloat : String → Option F)

/-- `columns[i]`: every index the loop reads is in range once a record has 60 columns. -/
def column (columns : List String) (i : Nat) : String := columns.getD i ""

/-- The negation of the loop's `columns[1] != "BACKEND"`. -/
def isBackend (columns : List String) : Bool := column columns 1 == "BACKEND"

/-- The keys a BACKEND row adds to, each with its column, in the order of the source. -/
def backendColumns : List (String × Nat) :=
  [("sessions", 7), ("bytes_in", 8), ("bytes_out", 9), ("connection_errors", 13)]

/-- The error of a record shorter than 60 columns. -/
def tooShort : String := "length of stats csv is too short (specified uri/socket may be wrong)"

/-- `data, err = strconv.ParseFloat(columns[i], 64)`, then `stat[key] += data`. -/
def addColumn (columns : List String) (stat : GoMap F) (c : String × Nat) :
    Except String (GoMap F) :=
  match parseFloat (column columns c.2) with
  | some data => .ok (stat.addAt c.1 data)
  | none => .error "cannot get values"

/-- The loop body on one record. -/
def parseRecord (stat : GoMap F) (columns : List String) : Except String (GoMap F) :=
  if columns.length < 60 then .error tooShort
  else if column columns 1 != "BACKEND" then .ok stat
  else backendColumns.foldlM (addColumn parseFloat columns) stat

/-- `HAProxyPlugin.parseStats`: the loop over the records up to `io.EOF`. -/
def parseStats (reads : List ReadResult) : Except String (GoMap F) :=
  reads.foldlM (fun stat r => parseRecord parseFloat stat r.columns) GoMap.empty

/-- The error beside a record never changes what `parseStats` returns. -/
theorem parseStats_ignores_read_errors (reads : List ReadResult) :
    parseStats parseFloat reads = parseStats parseFloat (reads.map fun r => .ofRecord r.columns) := by
  simp [parseStats, List.foldlM_map, ReadResult.ofRecord]

/-! ## One record -/

section Record

variable {parseFloat}
variable {columns : List String} (stat : GoMap F)

theorem parseRecord_of_short (short : columns.length < 60) :
    parseRecord parseFloat stat columns = .error tooShort := by
  simp [parseRecord, short]

theorem parseRecord_of_other (wide : 60 ≤ columns.length) (other : isBackend columns = false) :
    parseRecord parseFloat stat columns = .ok stat := by
  simp_all [parseRecord, isBackend]

theorem parseRecord_of_backend (wide : 60 ≤ columns.length) (backend : isBackend columns = true) :
    parseRecord parseFloat stat columns =
      backendColumns.foldlM (addColumn parseFloat columns) stat := by
  simp_all [parseRecord, isBackend]

theorem addColumn_error_iff (c : String × Nat) :
    (∃ e, addColumn parseFloat columns stat c = .error e) ↔ parseFloat (column columns c.2) = none := by
  unfold addColumn
  split <;> simp_all

end Record

/-- A record that makes the loop return: shorter than 60 columns, or a BACKEND row with a
column `ParseFloat` rejects. -/
def BadRecord (columns : List String) : Prop :=
  columns.length < 60 ∨
    (isBackend columns = true ∧ ∃ c ∈ backendColumns, parseFloat (column columns c.2) = none)

theorem parseRecord_error_iff (stat : GoMap F) (columns : List String) :
    (∃ e, parseRecord parseFloat stat columns = .error e) ↔ BadRecord parseFloat columns := by
  by_cases short : columns.length < 60
  · simp [parseRecord_of_short stat short, BadRecord, short]
  have wide : 60 ≤ columns.length := by omega
  cases backend : isBackend columns
  · simp [parseRecord_of_other stat wide backend, BadRecord, short, backend]
  · rw [parseRecord_of_backend stat wide backend,
      foldlM_error_iff (addColumn parseFloat columns) _ addColumn_error_iff]
    simp [BadRecord, short, backend]

theorem parseStats_error_iff_exists_bad (reads : List ReadResult) :
    (∃ e, parseStats parseFloat reads = .error e) ↔ ∃ r ∈ reads, BadRecord parseFloat r.columns := by
  unfold parseStats
  exact foldlM_error_iff _ (fun r => BadRecord parseFloat r.columns)
    (fun stat r => parseRecord_error_iff parseFloat stat r.columns) reads GoMap.empty

/-! ## Records that do not fail -/

/-- What a BACKEND column adds once `ParseFloat` has accepted it. -/
def columnValue (columns : List String) (i : Nat) : F := (parseFloat (column columns i)).getD 0

/-- The four additions of a BACKEND row whose columns all parse. -/
def addRow (stat : GoMap F) (columns : List String) : GoMap F :=
  backendColumns.foldl (fun st c => st.addAt c.1 (columnValue parseFloat columns c.2)) stat

theorem foldlM_addColumn_of_parses (columns : List String) :
    ∀ (cs : List (String × Nat)) (stat : GoMap F),
      (∀ c ∈ cs, (parseFloat (column columns c.2)).isSome) →
      cs.foldlM (addColumn parseFloat columns) stat =
        .ok (cs.foldl (fun st c => st.addAt c.1 (columnValue parseFloat columns c.2)) stat)
  | [], _, _ => rfl
  | c :: cs, stat, parses => by
      obtain ⟨data, parsed⟩ := Option.isSome_iff_exists.1 (parses c (List.mem_cons_self c cs))
      have rest := foldlM_addColumn_of_parses columns cs (stat.addAt c.1 data)
        (fun c' mem => parses c' (List.mem_cons_of_mem c mem))
      simpa [addColumn, parsed, columnValue] using rest

theorem parseRecord_of_good (stat : GoMap F) {columns : List String}
    (good : ¬BadRecord parseFloat columns) :
    parseRecord parseFloat stat columns =
      .ok (if isBackend columns then addRow parseFloat stat columns else stat) := by
  simp only [BadRecord, not_or, not_and, not_exists, not_lt] at good
  obtain ⟨wide, parses⟩ := good
  cases backend : isBackend columns
  · exact parseRecord_of_other stat wide backend
  · rw [parseRecord_of_backend stat wide backend]
    exact foldlM_addColumn_of_parses parseFloat columns _ stat fun c mem =>
      Option.ne_none_iff_isSome.1 (parses backend c mem)

/-- The loop invariant: after a run of records none of which fails, the map holds the
BACKEND rows among them added one after the other. -/
theorem foldlM_parseRecord_of_good :
    ∀ (reads : List ReadResult) (stat : GoMap F),
      (∀ r ∈ reads, ¬BadRecord parseFloat r.columns) →
      reads.foldlM (fun stat r => parseRecord parseFloat stat r.columns) stat =
        .ok (((reads.map (·.columns)).filter isBackend).foldl (addRow parseFloat) stat)
  | [], _, _ => rfl
  | r :: reads, stat, good => by
      have rest := foldlM_parseRecord_of_good reads
        (if isBackend r.columns then addRow parseFloat stat r.columns else stat)
        (fun r' mem => good r' (List.mem_cons_of_mem r mem))
      rw [List.foldlM_cons, parseRecord_of_good parseFloat stat (good r (List.mem_cons_self r reads)),
        except_ok_bind, rest]
      cases backend : isBackend r.columns <;> simp [List.filter_cons, backend]

theorem parseStats_ok_of_good (reads : List ReadResult)
    (good : ∀ r ∈ reads, ¬BadRecord parseFloat r.columns) :
    parseStats parseFloat reads =
      .ok (((reads.map (·.columns)).filter isBackend).foldl (addRow parseFloat) GoMap.empty) :=
  foldlM_parseRecord_of_good parseFloat reads GoMap.empty good

/-! ## The sums, key by key -/

theorem addRow_apply_of_mem (stat : GoMap F) (columns : List String) {c : String × Nat}
    (mem : c ∈ backendColumns) :
    addRow parseFloat stat columns c.1 = some ((stat c.1).getD 0 + columnValue parseFloat columns c.2) := by
  simp only [backendColumns, List.mem_cons, List.mem_singleton, List.not_mem_nil, or_false] at mem
  rcases mem with rfl | rfl | rfl | rfl <;> simp [addRow, backendColumns, GoMap.addAt_of_ne]

theorem addRow_apply_of_not_mem (stat : GoMap F) (columns : List String) {k : String}
    (other : k ∉ backendColumns.map Prod.fst) : addRow parseFloat stat columns k = stat k := by
  simp only [backendColumns, List.map_cons, List.map_nil, List.mem_cons, List.mem_singleton,
    List.not_mem_nil, or_false, not_or] at other
  simp [addRow, backendColumns, GoMap.addAt_of_ne, other]

/-- `m[k] += x` over a list of values: the key appears with the first value. -/
theorem foldl_addOption_some (l : List F) (a : F) :
    l.foldl (fun acc x => some (acc.getD 0 + x)) (some a) = some (l.foldl (· + ·) a) := by
  induction l generalizing a with
  | nil => rfl
  | cons x l ih => exact ih (a + x)

theorem foldl_addOption_none (l : List F) :
    l.foldl (fun acc x => some (acc.getD 0 + x)) none =
      if l.isEmpty then none else some (l.foldl (· + ·) 0) := by
  cases l with
  | nil => rfl
  | cons x l => exact foldl_addOption_some l (0 + x)

theorem addRows_apply_of_mem {c : String × Nat} (mem : c ∈ backendColumns) :
    ∀ (rows : List (List String)) (stat : GoMap F),
      rows.foldl (addRow parseFloat) stat c.1 =
        (rows.map (columnValue parseFloat · c.2)).foldl (fun acc x => some (acc.getD 0 + x)) (stat c.1)
  | [], _ => rfl
  | r :: rows, stat => by
      simp only [List.foldl_cons, List.map_cons]
      rw [addRows_apply_of_mem mem rows, addRow_apply_of_mem parseFloat stat r mem]

theorem addRows_apply_of_not_mem {k : String} (other : k ∉ backendColumns.map Prod.fst) :
    ∀ (rows : List (List String)) (stat : GoMap F), rows.foldl (addRow parseFloat) stat k = stat k
  | [], _ => rfl
  | r :: rows, stat => by
      rw [List.foldl_cons, addRows_apply_of_not_mem other rows, addRow_apply_of_not_mem parseFloat stat r other]

omit [Add F] in
theorem filterMap_eq_map_columnValue (i : Nat) :
    ∀ (rows : List (List String)), (∀ r ∈ rows, (parseFloat (column r i)).isSome) →
      rows.filterMap (fun r => parseFloat (column r i)) = rows.map (columnValue parseFloat · i)
  | [], _ => rfl
  | r :: rows, parses => by
      obtain ⟨x, parsed⟩ := Option.isSome_iff_exists.1 (parses r (List.mem_cons_self r rows))
      simp [List.filterMap_cons, parsed, columnValue,
        filterMap_eq_map_columnValue i rows fun r' mem => parses r' (List.mem_cons_of_mem r mem)]

/-- Once a BACKEND row exists, a key of `backendColumns` holds the left-to-right sum of its
column over the BACKEND rows, when all those columns parse. -/
theorem addRows_backend_key {c : String × Nat} (mem : c ∈ backendColumns)
    {rows : List (List String)} (nonempty : rows ≠ [])
    (parses : ∀ r ∈ rows, (parseFloat (column r c.2)).isSome) :
    rows.foldl (addRow parseFloat) GoMap.empty c.1 =
      some ((rows.filterMap fun r => parseFloat (column r c.2)).foldl (· + ·) 0) := by
  obtain ⟨x, rest, rfl⟩ := List.exists_cons_of_ne_nil nonempty
  rw [addRows_apply_of_mem parseFloat mem, GoMap.empty_apply, foldl_addOption_none,
    filterMap_eq_map_columnValue parseFloat c.2 _ parses]
  rfl

/-! ## The contract -/

/-- The left-to-right sum, over the records whose field 1 is `BACKEND`, of `ParseFloat` of
field `i`. -/
def backendSum (records : List (List String)) (i : Nat) : F :=
  ((records.filter fun r => r.getD 1 "" == "BACKEND").filterMap
    fun r => parseFloat (r.getD i "")).foldl (· + ·) 0

/-- On records of at least 60 fields whose BACKEND rows have fields 7, 8, 9 and 13 that
`ParseFloat` accepts, `parseStats` returns the empty map without a BACKEND row, and otherwise
the map of exactly `sessions`, `bytes_in`, `bytes_out` and `connection_errors` to the sums of
fields 7, 8, 9 and 13 over the BACKEND rows. -/
theorem parseStats_sums_backend_rows (records : List (List String))
    (wide : ∀ r ∈ records, 60 ≤ r.length)
    (numeric : ∀ r ∈ records, r.getD 1 "" = "BACKEND" →
      ∀ i ∈ [7, 8, 9, 13], (parseFloat (r.getD i "")).isSome) :
    parseStats parseFloat (records.map ReadResult.ofRecord) =
      .ok (if ∀ r ∈ records, r.getD 1 "" ≠ "BACKEND" then fun _ => none else
        fun k =>
          if k = "sessions" then some (backendSum parseFloat records 7)
          else if k = "bytes_in" then some (backendSum parseFloat records 8)
          else if k = "bytes_out" then some (backendSum parseFloat records 9)
          else if k = "connection_errors" then some (backendSum parseFloat records 13)
          else none) := by
  have backend_iff : ∀ r : List String, isBackend r = true ↔ r.getD 1 "" = "BACKEND" := by
    simp [isBackend, column]
  have parses : ∀ r ∈ records, isBackend r = true →
      ∀ c ∈ backendColumns, (parseFloat (column r c.2)).isSome := fun r mem backend c cmem =>
    numeric r mem ((backend_iff r).1 backend) c.2 (List.mem_map_of_mem Prod.snd cmem)
  have good : ∀ r ∈ records.map ReadResult.ofRecord, ¬BadRecord parseFloat r.columns := by
    simp only [List.mem_map, forall_exists_index, and_imp, forall_apply_eq_imp_iff₂,
      ReadResult.ofRecord_columns, BadRecord, not_or, not_lt, not_and, not_exists,
      Option.ne_none_iff_isSome]
    exact fun r mem => ⟨wide r mem, parses r mem⟩
  have columns_eq : (records.map ReadResult.ofRecord).map (·.columns) = records := by
    simp [Function.comp_def]
  rw [parseStats_ok_of_good parseFloat _ good, columns_eq]
  congr 1
  by_cases none_backend : ∀ r ∈ records, r.getD 1 "" ≠ "BACKEND"
  · rw [if_pos none_backend, List.filter_eq_nil_iff.2 fun r mem backend =>
      none_backend r mem ((backend_iff r).1 backend)]
    rfl
  · rw [if_neg none_backend]
    have nonempty : records.filter isBackend ≠ [] := fun empty => none_backend fun r mem same =>
      List.filter_eq_nil_iff.1 empty r mem ((backend_iff r).2 same)
    have sum : ∀ c ∈ backendColumns, (records.filter isBackend).foldl (addRow parseFloat)
        GoMap.empty c.1 = some (backendSum parseFloat records c.2) := fun c mem => by
      rw [addRows_backend_key parseFloat mem nonempty fun r member =>
        parses r (List.mem_filter.1 member).1 (List.mem_filter.1 member).2 c mem]
      rfl
    funext k
    split_ifs with sessions bytesIn bytesOut errors
    · subst sessions; exact sum ("sessions", 7) (by decide)
    · subst bytesIn; exact sum ("bytes_in", 8) (by decide)
    · subst bytesOut; exact sum ("bytes_out", 9) (by decide)
    · subst errors; exact sum ("connection_errors", 13) (by decide)
    · rw [addRows_apply_of_not_mem parseFloat (by simp [backendColumns, *])]
      rfl

/-- The run on two records, a header and one BACKEND row: the four sums are that row's
fields 7, 8, 9 and 13. -/
theorem parseStats_sums_backend_rows_header_and_row :
    let rows := ["# pxname" :: "svname" :: List.replicate 58 "x",
      "web" :: "BACKEND" :: List.replicate 5 "0" ++ ["10", "100", "200", "0", "0", "0", "1"] ++
        List.replicate 46 "0"]
    let parse := fun s : String => decimal s.toList
    (∀ r ∈ rows, 60 ≤ r.length) ∧
    (∀ r ∈ rows, r.getD 1 "" = "BACKEND" → ∀ i ∈ [7, 8, 9, 13], (parse (r.getD i "")).isSome) ∧
    ∃ stat, parseStats parse (rows.map ReadResult.ofRecord) = .ok stat ∧
      stat "sessions" = some 10 ∧ stat "bytes_in" = some 100 ∧ stat "bytes_out" = some 200 ∧
      stat "connection_errors" = some 1 ∧ stat "pxname" = none :=
  ⟨by decide, by decide, _, parseStats_sums_backend_rows _ _ (by decide) (by decide),
    by decide, by decide, by decide, by decide, by decide⟩

/-- `parseStats` returns an error exactly when some record is shorter than 60 fields, or has
field 1 equal to `BACKEND` and a field among 7, 8, 9 and 13 that `ParseFloat` rejects. -/
theorem parseStats_error_iff (records : List (List String)) :
    (∃ e, parseStats parseFloat (records.map ReadResult.ofRecord) = .error e) ↔
      ∃ r ∈ records, r.length < 60 ∨
        (r.getD 1 "" = "BACKEND" ∧ ∃ i ∈ [7, 8, 9, 13], parseFloat (r.getD i "") = none) := by
  rw [parseStats_error_iff_exists_bad]
  simp only [List.mem_map, exists_exists_and_eq_and, ReadResult.ofRecord_columns, BadRecord,
    isBackend, column, beq_iff_eq, backendColumns, List.mem_cons, List.mem_singleton,
    List.not_mem_nil, or_false, exists_eq_or_imp, exists_eq_left]

/-- A header of 60 columns, then a BACKEND row of 61 that `encoding/csv` returns with
`ErrFieldCount`: the row is summed and the run succeeds. -/
theorem parseStats_sums_row_read_with_error :
    ∃ reads, reads = readRecords none 1
        ["# pxname" :: "svname" :: List.replicate 58 "x",
          "web" :: "BACKEND" :: List.replicate 5 "0" ++ ["10", "100", "200", "0", "0", "0", "1"] ++
            List.replicate 47 "0"] ∧
      reads.map (·.err) = [none, some "record on line 2: wrong number of fields"] ∧
      (parseStats (fun s => decimal s.toList) reads).toOption.map (· "sessions") = some (some 10) :=
  ⟨_, rfl, by decide, by decide⟩

end Mackerel.Haproxy
