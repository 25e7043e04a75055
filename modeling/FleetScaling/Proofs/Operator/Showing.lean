import FleetScaling.Proofs.Baseline.Agreement
import FleetScaling.Proofs.Baseline.Documents

/-!
# What is shown of an instance type

An operator may ask for the entries of one instance type. What printed lines show is a list of rows
in either format: a document shows the rows of the baseline that it is decoded to, a table has the
cells of each (`ShowsRows`). A table is of the rows that were asked for. A document is of the whole
baseline, whatever was asked for, so it shows what the table does exactly if the baseline has nothing
of other instance types (`shown_of_instance_iff`).
-/

namespace FleetScaling

open CommandLine Console Json

namespace Baseline

/-- The baseline has metrics under the path of a row, and the row has their times. -/
def Lists (b : Baseline) (row : Row) : Prop :=
  ∃ metrics, b.metrics? row.instanceType row.target row.strategy = some metrics ∧
    row.times = times? metrics

/-- A row is of the instance type that is asked for, if one is. -/
def Row.IsOf (wanted : Option String) (row : Row) : Prop := ∀ i ∈ wanted, row.instanceType = i

/-- The table of some rows. -/
def tableOf (rows : List Row) : Table where
  head := ["Compute Node", "Target", "Strategy", "Scale Up (EC2)", "Scale Up (Scheduler)",
    "Scale Down"]
  rows := rows.map Row.cells

/-- What printed lines show of a baseline: a document all that it is decoded to, a table the rows
below a line that says what it is. -/
inductive ShowsRows (palette : Palette) : OutputFormat → List String → List Row → Prop
  | document {text : String} {b : Baseline} : decode decoder text = .ok b →
      ShowsRows palette .json [text] b.rows
  | table (heading : String) (rows : List Row) :
      ShowsRows palette .table (heading :: palette.tableLines (tableOf rows)) rows

variable {b : Baseline} {wanted : Option String} {row : Row}

theorem mem_rows_iff_lists : row ∈ b.rows ↔ b.Lists row := mem_rows_iff

/-- The rows of an instance type are those that a table is made of. -/
theorem mem_filter_rows_iff :
    row ∈ b.rows.filter (fun row => wanted.all (· == row.instanceType)) ↔
      b.Lists row ∧ row.IsOf wanted := by
  rw [List.mem_filter, mem_rows_iff_lists]
  refine and_congr_right fun _ => ?_
  unfold Row.IsOf
  cases wanted with
  | none => exact iff_of_true rfl nofun
  | some i =>
    rw [Option.all_some, beq_iff_eq, eq_comm]
    exact ⟨fun h _ hi => Option.some.inj hi ▸ h, fun h => h i rfl⟩

end Baseline

namespace OperatorSurroundings

/-! ## Commands -/

/-- Started with some words, the program comes to carry out what they ask for: it understands them,
its settings are in order and the bench is at a URL. -/
structure Reaches (s : OperatorSurroundings) (words : List String) (request : OperatorRequest)
    (settings : OperatorSettings) (server : Server) : Prop where
  understood : OperatorRequest.read s.apiUrl words = .ok request
  settled : s.settings = .ok settings
  addressed : Server.at? s.network (settings.url request.apiUrl) = .ok server

variable {s : OperatorSurroundings} {path : String} {b : Baseline} {wanted : Option String}
  {rows : List Baseline.Row}

section Reached

variable {words : List String} {request : OperatorRequest} {settings : OperatorSettings}
  {server : Server}

/-- The program ends as the command does. -/
theorem Reaches.run_eq (h : s.Reaches words request settings server) :
    s.run words = match (s.carryOut request ()).outcome with
      | .ok _ => ⟨0, (s.carryOut request ()).notes, []⟩
      | .error failure => ⟨1, (s.carryOut request ()).notes, [s.palette.failure failure.message]⟩ := by
  unfold run
  split
  · rename_i halted
    cases h.understood.symm.trans halted
  · rename_i understood
    cases h.understood.symm.trans understood
    rfl

theorem Reaches.run_of_ok (h : s.Reaches words request settings server)
    (done : (s.carryOut request ()).outcome = .ok ()) :
    s.run words = ⟨0, (s.carryOut request ()).notes, []⟩ := by
  rw [h.run_eq, done]

theorem Reaches.carryOut_show {url file : Option String} {format : OutputFormat}
    (h : s.Reaches words ⟨url, format, .showBaseline file wanted⟩ settings server)
    (hpath : baselinePath settings file = .ok path) :
    s.carryOut ⟨url, format, .showBaseline file wanted⟩ = s.showBaseline format path wanted := by
  unfold carryOut
  rw [h.settled]
  show (Operation.ofExcept (Server.at? s.network (settings.url url)) >>= _) = _
  rw [h.addressed]
  show (Operation.ofExcept (baselinePath settings file) >>= _) = _
  rw [hpath]
  rfl

end Reached

/-! ## Showing a baseline -/

theorem showBaseline_of_loaded (loaded : s.baseline path = .ok b) (format : OutputFormat) :
    s.showBaseline format path wanted () =
      printAs format b.toValue (b.view s.palette path wanted) () := by
  unfold showBaseline
  rw [loaded]
  rfl

theorem showBaseline_json (loaded : s.baseline path = .ok b) :
    s.showBaseline .json path wanted () = ⟨.ok (), (), [b.toValue.pretty 0]⟩ :=
  showBaseline_of_loaded loaded .json

theorem showBaseline_table (loaded : s.baseline path = .ok b) :
    s.showBaseline .table path wanted () = ⟨.ok (), (), b.view s.palette path wanted⟩ :=
  (showBaseline_of_loaded loaded .table).trans (printLines_apply _)

theorem showBaseline_outcome (loaded : s.baseline path = .ok b) (format : OutputFormat) :
    (s.showBaseline format path wanted ()).outcome = .ok () := by
  rw [showBaseline_of_loaded loaded]
  exact printAs_ok format _ _

/-- A document shows every row of the baseline and no other. -/
theorem showsRows_json_iff (loaded : s.baseline path = .ok b) :
    Baseline.ShowsRows s.palette .json (s.showBaseline .json path wanted ()).notes rows ↔
      rows = b.rows := by
  have decoded : decode Baseline.decoder (b.toValue.pretty 0) = .ok b :=
    Baseline.decodes.pretty (by decide) 0 b
  rw [showBaseline_json loaded]
  constructor
  · intro h
    cases h with
    | document read =>
      cases decoded.symm.trans read
      rfl
  · rintro rfl
    exact .document decoded

/-- A table shows the rows of the instance type. -/
theorem showsRows_table (loaded : s.baseline path = .ok b) :
    Baseline.ShowsRows s.palette .table (s.showBaseline .table path wanted ()).notes
      (b.rows.filter fun row => wanted.all (· == row.instanceType)) := by
  rw [showBaseline_table loaded]
  exact .table _ _

/-- **What is shown of an instance type.** For a baseline file that loads, showing it succeeds in
either format. The table shows the rows of the instance type that is asked for, or all if none is.
The document always shows all rows of the baseline. So both formats show exactly the rows of the
instance type, with the same times, if and only if the baseline has no row of another one. A program
that is started with such a command prints what is shown, and ends well. -/
theorem shown_of_instance_iff (loaded : s.baseline path = .ok b) (wanted : Option String) :
    let shown (format : OutputFormat) := s.showBaseline format path wanted ()
    (∀ format, ∃ rows, Baseline.ShowsRows s.palette format (shown format).notes rows ∧
      rows.Pairwise Baseline.Row.Precedes ∧
      ∀ row, row ∈ rows ↔ b.Lists row ∧ (format = .table → row.IsOf wanted)) ∧
    (∀ rows, Baseline.ShowsRows s.palette .json (shown .json).notes rows →
      ∀ row, row ∈ rows ↔ b.Lists row) ∧
    ((∀ format, ∃ rows, Baseline.ShowsRows s.palette format (shown format).notes rows ∧
        ∀ row, row ∈ rows ↔ b.Lists row ∧ row.IsOf wanted) ↔
      ∀ row, b.Lists row → row.IsOf wanted) ∧
    ∀ words url format file settings server,
      s.Reaches words ⟨url, format, .showBaseline file wanted⟩ settings server →
      baselinePath settings file = .ok path → s.run words = ⟨0, (shown format).notes, []⟩ := by
  intro shown
  have document (rows) :
      Baseline.ShowsRows s.palette .json (shown .json).notes rows ↔ rows = b.rows :=
    showsRows_json_iff loaded
  have table : Baseline.ShowsRows s.palette .table (shown .table).notes _ :=
    showsRows_table loaded
  refine ⟨fun format => ?_, fun rows h row => ?_, ⟨fun same row hrow => ?_, fun all format => ?_⟩,
    fun words url format file settings server reached hpath => ?_⟩
  · cases format with
    | json =>
      refine ⟨b.rows, (document _).2 rfl, b.pairwise_rows, fun row => ?_⟩
      rw [Baseline.mem_rows_iff_lists]
      exact ⟨fun h => ⟨h, nofun⟩, And.left⟩
    | table =>
      refine ⟨_, table, b.pairwise_rows.filter _, fun row => ?_⟩
      rw [Baseline.mem_filter_rows_iff, imp_iff_right rfl]
  · rw [(document rows).1 h, Baseline.mem_rows_iff_lists]
  · obtain ⟨rows, h, hrows⟩ := same .json
    rw [(document rows).1 h] at hrows
    exact ((hrows row).1 (Baseline.mem_rows_iff_lists.2 hrow)).2
  · cases format with
    | json =>
      refine ⟨b.rows, (document _).2 rfl, fun row => ?_⟩
      rw [Baseline.mem_rows_iff_lists]
      exact ⟨fun h => ⟨h, all row h⟩, And.left⟩
    | table => exact ⟨_, table, fun row => Baseline.mem_filter_rows_iff⟩
  · have outcome : (shown format).outcome = .ok () := showBaseline_outcome loaded format
    rw [reached.run_of_ok (by rwa [reached.carryOut_show hpath]), reached.carryOut_show hpath]

/-! ## Two instance types -/

/-- The characters of a baseline with one combination of each of some instance types. -/
def entriesOf (types : List String) : List Char :=
  '\x7b' :: [','].intercalate (types.map fun name => ["\"", name, "\": \x7b\"2\": ",
    "\x7b\"best-effort\": \x7b\"scale_up_time_ec2\": 50, ", "\"scale_up_time_scheduler\": 70, ",
    "\"scale_down_time\": 30\x7d\x7d\x7d"].flatMap String.toList) ++ ['\x7d']

/-- An operator beside the file of such a baseline. -/
def besideEntries (types : List String) : OperatorSurroundings where
  files := ⟨[(["baseline.json"], .file (some (String.ofList (entriesOf types))))]⟩
  home := some "home"
  apiUrl := none
  network := Web.Network.isolated
  palette := ⟨false⟩

/-- What the characters decode to is the baseline that the operator loads. -/
theorem exists_entries {α : Type} {types : List String} {look : Baseline → α} {a : α}
    (read : (decode Baseline.decoder (String.ofList (entriesOf types))).toOption.map look = some a) :
    ∃ b, (besideEntries types).baseline "baseline.json" = .ok b ∧ look b = a := by
  obtain ⟨b, hb, ha⟩ := Option.map_eq_some_iff.1 read
  refine ⟨b, ?_, ha⟩
  have content : (besideEntries types).files.read "baseline.json" =
      .ok (String.ofList (entriesOf types)) := rfl
  unfold baseline Baseline.ofFile
  rw [content]
  dsimp only
  rw [eq_ok_of_toOption hb]
  rfl

/-- The words that ask for the entries of one instance type. -/
def showWords (format : String) : List String :=
  ["--format", format, "baseline", "show", "--file", "baseline.json", "--instance", "c5.large"]

theorem showWords_reached : ∃ settings server,
    (besideEntries ["c5.large", "m5.large"]).Reaches (showWords "json")
      ⟨none, .json, .showBaseline (some "baseline.json") (some "c5.large")⟩ settings server ∧
    baselinePath settings (some "baseline.json") = .ok "baseline.json" := by
  have understood : OperatorRequest.read none (showWords "json") =
      .ok ⟨none, .json, .showBaseline (some "baseline.json") (some "c5.large")⟩ := by
    decide +kernel
  have settled : (besideEntries ["c5.large", "m5.large"]).settings.toOption = some .empty := by
    decide +kernel
  have url : (Web.Url.read OperatorSettings.usualUrl).toOption.isSome := by decide +kernel
  obtain ⟨url, hurl⟩ := exists_ok_of_toOption url
  have addressed : Server.at? Web.Network.isolated OperatorSettings.usualUrl =
      .ok ⟨Web.Network.isolated, url⟩ := by
    unfold Server.at?
    rw [hurl]
  exact ⟨.empty, ⟨Web.Network.isolated, url⟩, ⟨understood, eq_ok_of_toOption settled, addressed⟩, rfl⟩

/-- A baseline with nothing else: both formats show its only row. -/
theorem shown_of_instance_alone : ∃ b,
    (besideEntries ["c5.large"]).baseline "baseline.json" = .ok b ∧
    (∀ format, ∃ rows, Baseline.ShowsRows ⟨false⟩ format ((besideEntries ["c5.large"]).showBaseline
        format "baseline.json" (some "c5.large") ()).notes rows ∧
      ∀ row, row ∈ rows ↔ b.Lists row ∧ row.IsOf (some "c5.large")) ∧
    b.unsortedRows = [⟨"c5.large", "2", "best-effort", some ⟨50, 70, 30⟩⟩] := by
  have read : ((decode Baseline.decoder (String.ofList (entriesOf ["c5.large"]))).toOption.map
      Baseline.unsortedRows) = some [⟨"c5.large", "2", "best-effort", some ⟨50, 70, 30⟩⟩] := by
    unfold decode Document.ofText
    rw [String.toList_ofList]
    decide +kernel
  obtain ⟨b, loaded, hrows⟩ := exists_entries read
  refine ⟨b, loaded, (shown_of_instance_iff loaded (some "c5.large")).2.2.1.2 fun row hrow => ?_, hrows⟩
  rw [Baseline.Lists, ← Baseline.mem_unsortedRows_iff, hrows, List.mem_singleton] at hrow
  rintro _ ⟨⟩
  exact congrArg Baseline.Row.instanceType hrow

/-- A baseline of two instance types: the document has the one that was not asked for. -/
theorem not_shown_of_instance_mixed :
    let s := besideEntries ["c5.large", "m5.large"]
    ∃ b text, s.baseline "baseline.json" = .ok b ∧ s.run (showWords "json") = ⟨0, [text], []⟩ ∧
      decode Baseline.decoder text = .ok b ∧
      b.lookup "m5.large" 2 .bestEffort = some ⟨50, 70, 30⟩ ∧
      ¬∀ format, ∃ rows, Baseline.ShowsRows s.palette format
          (s.showBaseline format "baseline.json" (some "c5.large") ()).notes rows ∧
        ∀ row, row ∈ rows ↔ b.Lists row ∧ row.IsOf (some "c5.large") := by
  intro s
  have read : ((decode Baseline.decoder
      (String.ofList (entriesOf ["c5.large", "m5.large"]))).toOption.map
        fun b => b.lookup "m5.large" 2 .bestEffort) = some (some ⟨50, 70, 30⟩) := by
    unfold decode Document.ofText
    rw [String.toList_ofList]
    decide +kernel
  obtain ⟨b, loaded, hlookup⟩ := exists_entries read
  obtain ⟨settings, server, reached, hpath⟩ := showWords_reached
  refine ⟨b, b.toValue.pretty 0, loaded, ?_, Baseline.decodes.pretty (by decide) 0 b, hlookup,
    fun same => ?_⟩
  · rw [reached.run_of_ok (by rw [reached.carryOut_show hpath, showBaseline_json loaded]),
      reached.carryOut_show hpath, showBaseline_json loaded]
  · obtain ⟨rows, h, hrows⟩ := same .json
    rw [(showsRows_json_iff loaded).1 h] at hrows
    have shown := ((hrows _).1 (Baseline.lookup_eq_some_iff.1 hlookup)).2 "c5.large" rfl
    exact absurd shown (by decide)

end OperatorSurroundings

end FleetScaling
