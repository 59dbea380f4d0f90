import TimePanel.Proofs.Chart.Drawing

/-! Lines and areas along time: every row is a point of its series, and the points ascend. -/

namespace TimePanel

-- The place of an entry along time. Entries without one come after all others.
def Entry.place : Entry → WithTop Int
  | .point (.int n) _ => n
  | _ => ⊤

-- A line through points: each of them once, ascending, and those at one place in their own order.
structure IsTimeLine (points data : List Entry) : Prop where
  perm : data.Perm points
  ascending : data.Pairwise fun a b => a.place ≤ b.place
  stable : ∀ spot, data.filter (·.place = spot) = points.filter (·.place = spot)

namespace FieldMapping

variable (mapping : FieldMapping)

-- A row as a point along time: its x as the axis shows it, and the number in its y cell.
def pointOf (row : Row) : Entry :=
  .point (row.get mapping.x).onTimeAxis (row.get mapping.y).number?

-- Lines that share out all rows by the names of their series.
structure AreTimeLines (rows : List Row) (lines : List (String × List Entry)) : Prop where
  nodup : (lines.map Prod.fst).Nodup
  mem_names : ∀ name, name ∈ lines.map Prod.fst ↔ ∃ row ∈ rows, mapping.seriesOf row = name
  isTimeLine : ∀ line ∈ lines,
    IsTimeLine ((rows.filter fun row => mapping.seriesOf row = line.1).map mapping.pointOf) line.2
  perm : (lines.flatMap Prod.snd).Perm (rows.map mapping.pointOf)

-- A row whose x already stands as the axis shows it.
def plainPoint (row : Row) : Entry := .point (row.get mapping.x) (row.get mapping.y).number?

theorem place_plainPoint (row : Row) : (mapping.plainPoint row).place = row.place mapping.x := by
  unfold plainPoint Entry.place Row.place
  cases row.get mapping.x <;> rfl

theorem isTimeLine_sortRows {rows : List Row} (h : IsCounted mapping.x rows)
    (belongs : Row → Bool) :
    IsTimeLine ((rows.filter belongs).map mapping.plainPoint)
      (((sortRows rows mapping.x).filter belongs).map mapping.plainPoint) := by
  constructor
  · exact ((perm_sortRows rows mapping.x).filter belongs).map mapping.plainPoint
  · simp only [List.pairwise_map, place_plainPoint]
    exact (pairwise_sortRows h).filter belongs
  · intro spot
    simp only [List.filter_map, Function.comp_def, place_plainPoint]
    rw [List.filter_comm, filter_sortRows h, List.filter_comm]

theorem contents_timeLine (shape : SeriesShape) (rows : List Row) :
    (Plot.timeLine shape mapping rows.zipIdx).contents =
      (mapping.seriesNames rows).map fun name =>
        (name, (rows.filter fun row => mapping.seriesOf row = name).map mapping.plainPoint) := by
  rw [Plot.timeLine, Plot.contents_colored, groupRowsOr_eq, List.map_map, List.zipIdx_map_fst]
  apply List.map_congr_left
  intro name _
  exact congrArg _ (map_filter_zipIdx (mapping.seriesOf · = name) mapping.plainPoint rows)

end FieldMapping

namespace ChartConfiguration

variable {config : ChartConfiguration} {rows : List Row}

theorem plainPoint_drawn (htemporal : config.isTemporal = true)
    (hy : config.mapping.x ≠ config.mapping.y) (row : Row) :
    config.mapping.plainPoint (config.drawn row) = config.mapping.pointOf row := by
  rw [FieldMapping.plainPoint, FieldMapping.pointOf, get_drawn htemporal,
    get_drawn_of_ne hy.symm]

theorem areTimeLines (shape : SeriesShape) (htemporal : config.isTemporal = true)
    (hrows : IsCounted config.mapping.x rows) (hy : config.mapping.x ≠ config.mapping.y)
    (hgroup : config.mapping.group ≠ some config.mapping.x)
    (hpresent : config.mapping.IsPresent rows) :
    config.mapping.AreTimeLines rows
      (Plot.timeLine shape config.mapping (config.shown rows).zipIdx).contents := by
  have hnodup := config.mapping.nodup_seriesNames (config.shown rows)
  rw [FieldMapping.contents_timeLine]
  constructor
  · simpa only [List.map_map, Function.comp_def, List.map_id'] using hnodup
  · intro name
    simp only [List.map_map, Function.comp_def, List.map_id', mem_seriesNames_shown hgroup hpresent]
  · intro line hline
    obtain ⟨name, -, rfl⟩ := List.mem_map.mp hline
    have hline := config.mapping.isTimeLine_sortRows (isCounted_drawn hrows)
      (config.mapping.seriesOf · = name)
    simpa only [List.filter_map, List.map_map, Function.comp_def, seriesOf_drawn hgroup,
      plainPoint_drawn htemporal hy, shown] using hline
  · have hall : ∀ row ∈ config.shown rows, config.mapping.seriesOf row ∈
        config.mapping.seriesNames (config.shown rows) := by
      intro row hrow
      exact (FieldMapping.mem_seriesNames_iff (List.ne_nil_of_mem hrow)).mpr ⟨row, hrow, rfl⟩
    have hpoints := ((perm_flatMap_filter hnodup hall).trans (perm_shown rows)).map
      config.mapping.plainPoint
    simpa only [List.map_flatMap, List.flatMap_map, List.map_map, Function.comp_def,
      plainPoint_drawn htemporal hy] using hpoints

theorem exists_timeLine (hkind : config.kind ≠ .bar) (htemporal : config.isTemporal = true)
    (rows : List Row) :
    ∃ shape, Plot.ofRows config rows = .ok (Plot.timeLine shape config.mapping rows.zipIdx) := by
  unfold Plot.ofRows Plot.line
  rw [htemporal]
  cases hk : config.kind with
  | line => exact ⟨_, rfl⟩
  | area => exact ⟨_, rfl⟩
  | bar => exact absurd hk hkind

end ChartConfiguration

namespace RenderSpec

variable {dates : DateReader} {config : ChartConfiguration} {rows : List Row} {theme : ThemeColors}

-- A line and an area of the same rows differ in nothing but their looks.
theorem exists_contents_eq (hkind : config.kind ≠ .bar) (htemporal : config.isTemporal = true)
    (hrows : IsCounted config.mapping.x rows) (hpresent : config.mapping.IsPresent rows)
    (shape : SeriesShape) :
    ∃ spec, ofRows dates rows config theme = .ok spec ∧
      spec.plot.contents =
        (Plot.timeLine shape config.mapping (config.shown rows).zipIdx).contents := by
  obtain ⟨own, hplot⟩ := config.exists_timeLine hkind htemporal (config.shown rows)
  obtain ⟨spec, hspec, hcontents⟩ := (exists_ofRows_iff fun _ => hrows).mpr ⟨hpresent, hplot⟩
  refine ⟨spec, hspec, ?_⟩
  rw [hcontents, FieldMapping.contents_timeLine, FieldMapping.contents_timeLine]

-- Along time nothing is lost, doubled or out of order: the lines share out all rows, and the area
-- has what the line has.
theorem timeLines_keep_rows {spec : RenderSpec} (hspec : ofRows dates rows config theme = .ok spec)
    (hkind : config.kind ≠ .bar) (htemporal : config.isTemporal = true)
    (hrows : IsCounted config.mapping.x rows) (hy : config.mapping.x ≠ config.mapping.y)
    (hgroup : config.mapping.group ≠ some config.mapping.x) :
    (∀ row ∈ rows, (row.get config.mapping.x).coerceTime dates =
      .ok (row.get config.mapping.x).onTimeAxis) ∧
    config.mapping.AreTimeLines rows spec.plot.contents ∧
    ∀ kind ≠ .bar, ∃ other, ofRows dates rows { config with kind } theme = .ok other ∧
      other.plot.contents = spec.plot.contents := by
  obtain ⟨hpresent, -⟩ := (exists_ofRows_iff fun _ => hrows).mp ⟨spec, hspec, rfl⟩
  obtain ⟨shape, -⟩ := config.exists_timeLine hkind htemporal rows
  obtain ⟨found, hfound, hcontents⟩ := exists_contents_eq hkind htemporal hrows hpresent shape
  obtain rfl : found = spec := Except.ok.inj (hfound.symm.trans hspec)
  refine ⟨fun row hrow => Cell.coerceTime_eq dates (hrows row hrow), ?_, ?_⟩
  · rw [hcontents]
    exact ChartConfiguration.areTimeLines shape htemporal hrows hy hgroup hpresent
  · intro kind hother
    rw [hcontents]
    exact @exists_contents_eq dates { config with kind } rows theme hother htemporal hrows hpresent
      shape

-- An area by host, over time.
def byHost : ChartConfiguration :=
  { ChartConfiguration.default (.atClock .default ⟨0⟩ "chart_00000000") with
    kind := .area, mapping := ⟨"at", "load", some "host"⟩, timeFormatting := some ⟨true, none⟩ }

-- Seconds and milliseconds of one instant, a number that is too small to count time, and nothing.
def loads : List Row :=
  [[("at", .null), ("load", .int 4), ("host", .text "b")],
   [("at", .int 1700000000000), ("load", .int 1), ("host", .text "a")],
   [("at", .int 1700000000), ("load", .text "2"), ("host", .text "a")],
   [("at", .int 5), ("load", .text "idle"), ("host", .null)],
   [("at", .int 1600000000), ("load", .null), ("host", .text "a")]]

theorem timeLines_keep_rows_byHost :
    loads.map byHost.mapping.pointOf =
        [.point .null (some (.int 4)), .point (.int 1700000000000) (some (.int 1)),
          .point (.int 1700000000000) (some (.int 2)), .point (.int 5) none,
          .point (.int 1600000000000) none] ∧
      ∃ area line, ofRows (.on ⟨2024, 3, 13⟩) loads byHost .light = .ok area ∧
        ofRows (.on ⟨2024, 3, 13⟩) loads { byHost with kind := .line } .light = .ok line ∧
        byHost.mapping.AreTimeLines loads area.plot.contents ∧
        line.plot.contents = area.plot.contents := by
  have hcounted : IsCounted "at" loads := by
    simp [IsCounted, loads, Row.get, List.lookup]
  have hpresent : byHost.mapping.IsPresent loads := (checkMapping_eq_ok_iff .area).mp rfl
  obtain ⟨area, harea, -⟩ := exists_contents_eq (by decide) rfl hcounted hpresent (.bar false)
  obtain ⟨-, hlines, hkinds⟩ :=
    timeLines_keep_rows harea (by decide) rfl hcounted (by decide) (by decide)
  obtain ⟨line, hline, hsame⟩ := hkinds .line (by decide)
  exact ⟨rfl, area, line, harea, hline, hlines, hsame⟩

end RenderSpec

end TimePanel
