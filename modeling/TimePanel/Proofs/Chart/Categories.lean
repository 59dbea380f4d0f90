import TimePanel.Proofs.Chart.Drawing

/-! Charts over labels: every series has one entry for each label of the x axis. -/

namespace TimePanel

-- A computation over a list succeeds with one result for each item.
theorem Fault.forall₂_of_mapM {α β : Type} {f : α → Except Fault β} {items : List α}
    {results : List β} (h : items.mapM f = .ok results) :
    List.Forall₂ (fun a b => f a = .ok b) items results := by
  induction items generalizing results with
  | nil =>
      cases h
      exact .nil
  | cons a rest ih =>
      rw [List.mapM_cons, Fault.bind_eq_ok_iff] at h
      obtain ⟨first, hfirst, h⟩ := h
      obtain ⟨others, hothers, h⟩ := Fault.bind_eq_ok_iff.mp h
      cases h
      exact .cons hfirst (ih hothers)

-- The first placed row that passes a test, read apart from its place.
theorem find?_zipIdx_bind {β : Type} (test : Row → Bool) (f : Row → Option β) (rows : List Row) :
    ((rows.zipIdx.find? fun row => test row.1).bind fun row => f row.1) =
      (rows.find? test).bind f := by
  conv => rhs; rw [← List.zipIdx_map_fst 0 rows, List.find?_map, Option.bind_map]
  rfl

namespace ChartConfiguration

variable (config : ChartConfiguration)

-- Whether rows with the same label share a place on the x axis.
def gathersRows : Bool := config.kind = .bar || config.mapping.grouping.isSome

-- The labels along the x axis for rows in order: each label once where rows share places, and
-- otherwise one for each row.
def labelsOf (rows : List Row) : List String :=
  if config.gathersRows then
    sortCategories (distinct
      ((rows.filter fun row => !(row.get config.mapping.x).isNull).map
        (·.label config.mapping.x)))
  else rows.map (·.label config.mapping.x)

-- What a grouped line shows at a label: the y of the first row of the series that has it.
def firstValue (rows : List Row) (name label : String) : Entry :=
  .value ((rows.find? fun row =>
    config.mapping.seriesOf row = name ∧ row.label config.mapping.x = label).bind fun row =>
      (row.get config.mapping.y).number?)

-- Series over labels, drawn of rows in order. Where rows share places each label stands once, in
-- the order of labels, and otherwise every row has its own.
structure IsAligned (rows : List Row) (axis : List String) (plot : Plot) : Prop where
  labels : plot.labels = some axis
  nodup_labels : config.gathersRows = true → axis.Nodup
  shared_labels : config.gathersRows = true →
    IsLabelOrder (distinct ((valued config.mapping.x rows).map (·.label config.mapping.x))) axis
  own_labels : config.gathersRows = false → axis = rows.map (·.label config.mapping.x)
  names : plot.contents.map Prod.fst = config.mapping.seriesNames rows
  nodup_names : (plot.contents.map Prod.fst).Nodup
  names_of_groups : ∀ column, config.mapping.grouping = some column →
    IsFirstSeen (rows.map (·.label column)) (plot.contents.map Prod.fst)
  name_of_all : config.mapping.grouping = none →
    plot.contents.map Prod.fst = [config.mapping.y]
  length_data : ∀ line ∈ plot.contents, line.2.length = axis.length
  first_values : config.kind ≠ .bar → config.mapping.grouping.isSome = true →
    ∀ line ∈ plot.contents, line.2 = axis.map (config.firstValue rows line.1)
  row_values : config.gathersRows = false → ∀ line ∈ plot.contents,
    line.2 = rows.map fun row => .value (row.get config.mapping.y).number?

variable {config} {rows : List Row}

theorem categories_zipIdx (h : config.gathersRows = true) (rows : List Row) :
    Plot.categories rows.zipIdx config.mapping.x = config.labelsOf rows := by
  rw [labelsOf, if_pos h, Plot.categories,
    map_filter_zipIdx (fun row => !(row.get config.mapping.x).isNull)
      (Row.label · config.mapping.x)]

theorem nodup_labelsOf (h : config.gathersRows = true) (rows : List Row) :
    (config.labelsOf rows).Nodup := by
  rw [labelsOf, if_pos h]
  exact (perm_sortCategories _).nodup_iff.mpr (nodup_distinct _)

-- A plot over the labels of rows is aligned with them if its series have the names of the groups,
-- an entry for each label, and the entries that rows make.
theorem IsAligned.of_contents {plot : Plot} (hlabels : plot.labels = some (config.labelsOf rows))
    (hnames : plot.contents.map Prod.fst = config.mapping.seriesNames rows)
    (hlength : ∀ line ∈ plot.contents, line.2.length = (config.labelsOf rows).length)
    (hfirst : config.kind ≠ .bar → config.mapping.grouping.isSome = true →
      ∀ line ∈ plot.contents, line.2 = (config.labelsOf rows).map (config.firstValue rows line.1))
    (hrows : config.gathersRows = false → ∀ line ∈ plot.contents,
      line.2 = rows.map fun row => .value (row.get config.mapping.y).number?) :
    config.IsAligned rows (config.labelsOf rows) plot where
  labels := hlabels
  nodup_labels hgathers := nodup_labelsOf hgathers rows
  shared_labels hgathers := by
    rw [labelsOf, if_pos hgathers]
    exact isLabelOrder_sortCategories _
  own_labels hgathers := by
    rw [labelsOf, hgathers, if_neg Bool.false_ne_true]
  names := hnames
  nodup_names := hnames ▸ config.mapping.nodup_seriesNames rows
  names_of_groups column hgrouping := by
    rw [hnames, FieldMapping.seriesNames, hgrouping]
    exact isFirstSeen_distinct _
  name_of_all hgrouping := by
    rw [hnames, FieldMapping.seriesNames, hgrouping]
    rfl
  length_data := hlength
  first_values := hfirst
  row_values := hrows

theorem contents_groupedLine (shape : SeriesShape) {column : String}
    (hgrouping : config.mapping.grouping = some column) (rows : List Row) :
    (Plot.groupedLine shape config.mapping column rows.zipIdx).contents =
      (config.mapping.seriesNames rows).map fun name =>
        (name, (config.labelsOf rows).map (config.firstValue rows name)) := by
  have hgathers : config.gathersRows = true := by
    rw [gathersRows, hgrouping, Option.isSome_some, Bool.or_true]
  have hgroups : groupRowsOr rows.zipIdx config.mapping.grouping config.mapping.y = _ :=
    FieldMapping.groupRowsOr_eq rows.zipIdx
  rw [hgrouping] at hgroups
  change groupRows rows.zipIdx column = _ at hgroups
  rw [Plot.groupedLine, Plot.contents_colored, hgroups, List.map_map, List.zipIdx_map_fst,
    categories_zipIdx hgathers]
  apply List.map_congr_left
  intro name _
  refine congrArg (Prod.mk name) (List.map_congr_left fun label _ => ?_)
  simp only [firstValue, List.find?_filter, decide_eq_true_eq]
  exact congrArg Entry.value (find?_zipIdx_bind
    (fun row => config.mapping.seriesOf row = name ∧ row.label config.mapping.x = label)
    (·.number? config.mapping.y) rows)

theorem isAligned_groupedLine (shape : SeriesShape) {column : String}
    (hgrouping : config.mapping.grouping = some column) (rows : List Row) :
    config.IsAligned rows (config.labelsOf rows)
      (Plot.groupedLine shape config.mapping column rows.zipIdx) := by
  have hgathers : config.gathersRows = true := by
    rw [gathersRows, hgrouping, Option.isSome_some, Bool.or_true]
  have hvalues : ∀ line ∈ (Plot.groupedLine shape config.mapping column rows.zipIdx).contents,
      line.2 = (config.labelsOf rows).map (config.firstValue rows line.1) := by
    intro line hline
    rw [contents_groupedLine shape hgrouping] at hline
    obtain ⟨name, -, rfl⟩ := List.mem_map.mp hline
    rfl
  apply IsAligned.of_contents
  · exact congrArg some (categories_zipIdx hgathers rows)
  · simp [contents_groupedLine shape hgrouping, Function.comp_def]
  · intro line hline
    rw [hvalues line hline, List.length_map]
  · exact fun _ _ => hvalues
  · intro hrows
    rw [hgathers] at hrows
    cases hrows

theorem isAligned_singleLine (shape : SeriesShape) (hkind : config.kind ≠ .bar)
    (hgrouping : config.mapping.grouping = none) (rows : List Row) :
    config.IsAligned rows (config.labelsOf rows)
      (Plot.singleLine shape config.mapping rows.zipIdx) := by
  have hrows : config.gathersRows = false := by
    simp [gathersRows, hgrouping, hkind]
  have hlabels : config.labelsOf rows = rows.map (·.label config.mapping.x) := by
    rw [labelsOf, hrows, if_neg Bool.false_ne_true]
  have hcontents : (Plot.singleLine shape config.mapping rows.zipIdx).contents =
      [(config.mapping.y, rows.map fun row => .value (row.get config.mapping.y).number?)] := by
    rw [Plot.singleLine, Plot.contents_colored]
    exact congrArg (fun data => [(config.mapping.y, data)])
      (map_zipIdx (fun row => Entry.value (row.get config.mapping.y).number?) rows)
  apply IsAligned.of_contents
  · rw [hlabels]
    exact congrArg some (map_zipIdx (Row.label · config.mapping.x) rows)
  · rw [hcontents, FieldMapping.seriesNames, hgrouping]
    rfl
  · intro line hline
    rw [hcontents, List.mem_singleton] at hline
    rw [hline, hlabels, List.length_map, List.length_map]
  · intro _ hgrouped
    rw [hgrouping] at hgrouped
    cases hgrouped
  · intro _ line hline
    rw [hcontents, List.mem_singleton] at hline
    rw [hline]

-- Bars have the names of their groups and one entry for each key, whatever their heights.
theorem shape_of_bars {κ : Type} {mapping : FieldMapping} {stacked : Bool} {keys : List κ}
    {belongs : κ → PlacedRow → Bool} {entry : κ → Number → Entry} {series : List Series}
    (h : Plot.bars mapping stacked keys belongs entry rows.zipIdx = .ok series)
    (labels : Option (List String)) :
    (Plot.mk series labels).contents.map Prod.fst = mapping.seriesNames rows ∧
      ∀ line ∈ (Plot.mk series labels).contents, line.2.length = keys.length := by
  obtain ⟨lines, hlines, hseries⟩ := Fault.bind_eq_ok_iff.mp h
  cases hseries
  have heach : List.Forall₂
      (fun (line : String × List Entry) (group : String × List PlacedRow) =>
        line.2.length = keys.length ∧ line.1 = group.1)
      lines (groupRowsOr rows.zipIdx mapping.grouping mapping.y) := by
    refine List.Forall₂.flip ((Fault.forall₂_of_mapM hlines).imp fun group line hline => ?_)
    obtain ⟨data, hdata, hline⟩ := Fault.bind_eq_ok_iff.mp hline
    cases hline
    exact ⟨(Fault.forall₂_of_mapM hdata).length_eq.symm, rfl⟩
  obtain ⟨hlengths, hnames⟩ := (List.forall₂_and_left _ _).mp heach
  rw [Plot.contents_colored]
  refine ⟨?_, hlengths⟩
  have hsame : lines.map Prod.fst =
      (groupRowsOr rows.zipIdx mapping.grouping mapping.y).map Prod.fst := by
    rw [← List.forall₂_eq_eq_eq, List.forall₂_map_left_iff, List.forall₂_map_right_iff]
    exact hnames
  rw [hsame, FieldMapping.groupRowsOr_eq, List.zipIdx_map_fst, List.map_map]
  exact List.map_id _

theorem isAligned_categoryBars {stacked : Bool} {plot : Plot} (hkind : config.kind = .bar)
    (hplot : Plot.categoryBars config.mapping stacked rows.zipIdx = .ok plot) :
    config.IsAligned rows (config.labelsOf rows) plot := by
  have hgathers : config.gathersRows = true := by
    rw [gathersRows, hkind]
    rfl
  obtain ⟨series, hseries, hplot⟩ := Fault.bind_eq_ok_iff.mp hplot
  cases hplot
  have hlabels := categories_zipIdx hgathers rows
  obtain ⟨hnames, hlengths⟩ := shape_of_bars hseries
    (some (Plot.categories rows.zipIdx config.mapping.x))
  apply IsAligned.of_contents
  · exact congrArg some hlabels
  · exact hnames
  · rw [← hlabels]
    exact hlengths
  · exact fun hother => absurd hkind hother
  · intro hrows
    rw [hgathers] at hrows
    cases hrows

-- Whatever the kind of chart, rows that are plotted over labels are aligned with them.
theorem isAligned_ofRows {plot : Plot} (htemporal : config.isTemporal = false)
    (hplot : Plot.ofRows config rows = .ok plot) :
    config.IsAligned rows (config.labelsOf rows) plot := by
  have hline (shape : Bool → SeriesShape) (hkind : config.kind ≠ .bar) :
      config.IsAligned rows (config.labelsOf rows)
        (Plot.line shape config.mapping config.isTemporal rows.zipIdx) := by
    rw [Plot.line, htemporal, if_neg Bool.false_ne_true]
    cases hgrouping : config.mapping.grouping with
    | none => exact isAligned_singleLine (shape false) hkind hgrouping rows
    | some column => exact isAligned_groupedLine (shape true) hgrouping rows
  unfold Plot.ofRows at hplot
  cases hkind : config.kind with
  | line =>
      rw [hkind] at hplot
      cases hplot
      exact hline _ (by rw [hkind]; decide)
  | area =>
      rw [hkind] at hplot
      cases hplot
      exact hline _ (by rw [hkind]; decide)
  | bar =>
      simp only [hkind, htemporal, Bool.false_eq_true, if_false] at hplot
      exact isAligned_categoryBars hkind hplot

end ChartConfiguration

-- What an object has under a key, and what a list holds.
def Cell.part (name : String) : Cell → Cell
  | .object fields => Row.get fields name
  | _ => .null

def Cell.items : Cell → List Cell
  | .list items => items
  | _ => []

namespace RenderSpec

-- The labels of the x axis in the description of a drawing, and its series by name.
def drawnLabels (spec : RenderSpec) : List Cell :=
  ((Row.get spec.fields "x_axis").part "data").items

def drawnSeries (spec : RenderSpec) : List (Cell × List Cell) :=
  (Row.get spec.fields "series").items.map fun series =>
    (series.part "name", (series.part "data").items)

theorem drawnLabels_eq {spec : RenderSpec} {labels : List String}
    (h : spec.plot.labels = some labels) : spec.drawnLabels = labels.map .text := by
  obtain ⟨kind, title, xName, yName, showLegend, showGrid, theme, series, _⟩ := spec
  subst h
  rfl

theorem drawnSeries_eq (spec : RenderSpec) :
    spec.drawnSeries = spec.plot.contents.map fun line =>
      (.text line.1, line.2.map Entry.toCell) := by
  rw [Plot.contents, List.map_map]
  exact List.map_map

variable {dates : DateReader} {config : ChartConfiguration} {rows : List Row} {theme : ThemeColors}

-- Over labels, every chart that is drawn has its series aligned with the x axis: one for each group
-- in the order in which the sorted rows first show it, and one entry for each label. The
-- description of the drawing says the same.
theorem categories_aligned {spec : RenderSpec} (hspec : ofRows dates rows config theme = .ok spec)
    (htemporal : config.isTemporal = false) :
    ∃ sorted axis, IsRowOrder config.mapping.x rows sorted ∧
      config.IsAligned sorted axis spec.plot ∧
      spec.drawnLabels = axis.map .text ∧
      spec.drawnSeries = (spec.plot.contents.map fun line =>
        (.text line.1, line.2.map Entry.toCell)) ∧
      ∀ series ∈ spec.drawnSeries, series.2.length = spec.drawnLabels.length := by
  have hcounted : config.isTemporal = true → IsCounted config.mapping.x rows := by
    rw [htemporal]
    exact nofun
  obtain ⟨-, hplot⟩ := (exists_ofRows_iff hcounted).mp ⟨spec, hspec, rfl⟩
  rw [ChartConfiguration.shown_of_not_isTemporal htemporal] at hplot
  have haligned := ChartConfiguration.isAligned_ofRows htemporal hplot
  have hlabels := drawnLabels_eq haligned.labels
  refine ⟨_, _, isRowOrder_sortRows rows config.mapping.x, haligned, hlabels,
    drawnSeries_eq spec, ?_⟩
  intro series hseries
  rw [drawnSeries_eq] at hseries
  obtain ⟨line, hline, rfl⟩ := List.mem_map.mp hseries
  rw [hlabels, List.length_map, List.length_map, haligned.length_data line hline]

-- Lines by shop, where a number and a text have the same label and the row without a shop has no
-- day either.
def visits : ChartConfiguration :=
  { ChartConfiguration.default (.atClock .default ⟨0⟩ "chart_00000000") with
    kind := .line, mapping := ⟨"day", "visits", some "shop"⟩ }

def visitRows : List Row :=
  [[("day", .null), ("visits", .int 3), ("shop", .null)],
   [("day", .int 9), ("visits", .text "2"), ("shop", .text "a")],
   [("day", .text "9"), ("visits", .null), ("shop", .text "b")],
   [("day", .text "10"), ("visits", .int 1), ("shop", .text "b")],
   [("day", .int 9), ("visits", .int 4), ("shop", .text "a")]]

-- The rows are compared as texts, so the tenth day comes first among them, but last among the
-- labels, which all read as numbers.
theorem sortRows_visitRows : sortRows visitRows "day" =
    [[("day", .text "10"), ("visits", .int 1), ("shop", .text "b")],
     [("day", .int 9), ("visits", .text "2"), ("shop", .text "a")],
     [("day", .text "9"), ("visits", .null), ("shop", .text "b")],
     [("day", .int 9), ("visits", .int 4), ("shop", .text "a")],
     [("day", .null), ("visits", .int 3), ("shop", .null)]] := by cbv

theorem labelsOf_visitRows : visits.labelsOf (sortRows visitRows "day") = ["9", "10"] := by
  rw [sortRows_visitRows]
  change sortCategories ["10", "9"] = ["9", "10"]
  cbv

theorem categories_aligned_visits :
    ∃ spec sorted, ofRows (.on ⟨2024, 3, 13⟩) visitRows visits .light = .ok spec ∧
      IsRowOrder "day" visitRows sorted ∧ visits.IsAligned sorted ["9", "10"] spec.plot ∧
      spec.plot.contents =
        [("b", [.value none, .value (some (.int 1))]), ("a", [.value (some (.int 2)), .value none]),
          ("", [.value none, .value none])] := by
  have hdrawn : ∃ spec, ofRows (.on ⟨2024, 3, 13⟩) visitRows visits .light = .ok spec ∧
      spec.plot = Plot.groupedLine (.line false true) visits.mapping "shop"
        (sortRows visitRows "day").zipIdx :=
    ⟨_, rfl, rfl⟩
  obtain ⟨spec, hspec, hplot⟩ := hdrawn
  obtain ⟨sorted, axis, hsorted, haligned, -⟩ := categories_aligned hspec rfl
  have hlabels : spec.plot.labels = some ["9", "10"] := by
    rw [hplot, ← labelsOf_visitRows]
    exact congrArg some (ChartConfiguration.categories_zipIdx rfl _)
  obtain rfl : ["9", "10"] = axis := Option.some.inj (hlabels.symm.trans haligned.labels)
  refine ⟨spec, sorted, hspec, hsorted, haligned, ?_⟩
  rw [hplot, ChartConfiguration.contents_groupedLine _ rfl, labelsOf_visitRows, sortRows_visitRows]
  rfl

end RenderSpec

end TimePanel
