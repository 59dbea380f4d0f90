import TimePanel.Proofs.Chart.Drawing

/-! Bars over labels or over time: each is the sum of the rows that it stands for, and together they
are the sum of all. -/

namespace TimePanel

namespace Number

theorem same_int (a b : Int) : same (.int a) (.int b) = decide (a = b) := by
  simp [same, extended?]

theorem foldlM_add_int (start : Int) (values : List Int) :
    (values.map Number.int).foldlM add (.int start) = .ok (.int (start + values.sum)) := by
  induction values generalizing start with
  | nil => simp [pure, Except.pure]
  | cons value rest ih =>
      rw [List.sum_cons, ← Int.add_assoc]
      exact ih (start + value)

theorem sum_int (values : List Int) : sum (values.map .int) = .ok (.int values.sum) := by
  rw [sum, foldlM_add_int, Int.zero_add]

end Number

section Whole

variable {column : String} {rows : List Row}

-- The whole number that a cell holds or reads as; any other cell counts as zero.
def Cell.whole (cell : Cell) : Int :=
  match cell.number? with
  | some (.int n) => n
  | _ => 0

def Row.whole (row : Row) (column : String) : Int := (row.get column).whole

-- Whether all numbers in a column are whole.
def IsWhole (column : String) (rows : List Row) : Prop :=
  ∀ row ∈ rows, ∀ number, row.number? column = some number → ∃ n, number = .int n

theorem amount_eq (h : IsWhole column rows) {row : Row} (hrow : row ∈ rows) :
    Plot.amount row column = .int (row.whole column) := by
  unfold Plot.amount Row.whole Cell.whole Row.number?
  cases hnumber : (row.get column).number? with
  | none => rfl
  | some number =>
      obtain ⟨n, rfl⟩ := h row hrow number hnumber
      by_cases hn : n = 0
      · simp [Option.filter_some, Number.isZero, Number.same_int, hn]
      · simp [Option.filter_some, Number.isZero, Number.same_int, hn]

end Whole

-- What a bar stands on: a label, or a moment in milliseconds.
inductive Category where
  | label (text : String)
  | moment (millis : Int)
deriving DecidableEq, Repr

namespace Category

def text : Category → String
  | label text => text
  | moment millis => toString millis

-- A bar of some height on a category.
def bar (height : Int) : Category → Entry
  | label _ => .value (some (.int height))
  | moment millis => .point (.int millis) (some (.int height))

end Category

-- The height of a bar.
def Entry.height : Entry → Int
  | .value (some (.int n)) => n
  | .point _ (some (.int n)) => n
  | _ => 0

theorem Category.height_bar (category : Category) (height : Int) :
    (category.bar height).height = height := by
  cases category <;> rfl

namespace FieldMapping

variable (mapping : FieldMapping)

-- The sum over the rows of a series and a category.
def total (category : Row → Category) (rows : List Row) (name : String) (spot : Category) : Int :=
  (((rows.filter (mapping.seriesOf · = name)).filter (category · = spot)).map
    (·.whole mapping.y)).sum

-- The bars of each series along an axis.
def barTable (category : Row → Category) (rows : List Row) (axis : List Category) :
    List (String × List Entry) :=
  (mapping.seriesNames rows).map fun name =>
    (name, axis.map fun spot => spot.bar (mapping.total category rows name spot))

variable {mapping} {category : Row → Category} {rows : List Row}

theorem total_perm {others : List Row} (h : others.Perm rows) (name : String) (spot : Category) :
    mapping.total category others name spot = mapping.total category rows name spot :=
  (((h.filter _).filter _).map _).sum_eq

-- The sums over all series and categories add up to the sum over all rows.
theorem sum_total {names : List String} {axis : List Category} (hnames : names.Nodup)
    (haxis : axis.Nodup) (hseries : ∀ row ∈ rows, mapping.seriesOf row ∈ names)
    (hcategory : ∀ row ∈ rows, category row ∈ axis) :
    (names.map fun name => (axis.map (mapping.total category rows name)).sum).sum =
      (rows.map (·.whole mapping.y)).sum := by
  have hrow (name : String) : (axis.map (mapping.total category rows name)).sum =
      ((rows.filter (mapping.seriesOf · = name)).map (·.whole mapping.y)).sum := by
    have hkept : ∀ row ∈ rows.filter (mapping.seriesOf · = name), category row ∈ axis :=
      fun row hrow => hcategory row (List.mem_filter.mp hrow).1
    exact sum_map_filter (fun row => row.whole mapping.y) haxis hkept
  simp only [hrow]
  exact sum_map_filter _ hnames hseries

end FieldMapping

namespace Plot

variable {mapping : FieldMapping} {rows : List Row}

-- The total of a bar does not depend on the places of the rows.
theorem barTotal_eq (h : IsWhole mapping.y rows) {category : Row → Category} {spot : Category}
    {belongs : PlacedRow → Bool}
    (hbelongs : ∀ row ∈ rows.zipIdx, belongs row = decide (category row.1 = spot)) (name : String) :
    barTotal mapping belongs (rows.zipIdx.filter fun row => mapping.seriesOf row.1 = name) =
      .ok (.int (mapping.total category rows name spot)) := by
  have hamounts : ((rows.zipIdx.filter fun row => mapping.seriesOf row.1 = name).filter belongs).map
      (fun row => amount row.1 mapping.y) =
        ((rows.filter (mapping.seriesOf · = name)).filter (category · = spot)).map
          (amount · mapping.y) := by
    rw [List.filter_filter, List.filter_filter, ← map_filter_zipIdx]
    congr 1
    apply List.filter_congr
    intro row hrow
    rw [hbelongs row hrow]
  have hwhole : ((rows.filter (mapping.seriesOf · = name)).filter (category · = spot)).map
      (amount · mapping.y) =
        (((rows.filter (mapping.seriesOf · = name)).filter (category · = spot)).map
          (·.whole mapping.y)).map .int := by
    rw [List.map_map]
    apply List.map_congr_left
    intro row hrow
    exact amount_eq h (List.mem_filter.mp (List.mem_filter.mp hrow).1).1
  rw [barTotal, hamounts, hwhole, Number.sum_int, FieldMapping.total]

-- Bars whose keys stand for categories.
theorem bars_eq (h : IsWhole mapping.y rows) {κ : Type} {keys : List κ}
    {belongs : κ → PlacedRow → Bool} {entry : κ → Number → Entry} (category : Row → Category)
    (spot : κ → Category) (stacked : Bool)
    (hbelongs : ∀ key ∈ keys, ∀ row ∈ rows.zipIdx,
      belongs key row = decide (category row.1 = spot key))
    (hentry : ∀ key ∈ keys, ∀ height, entry key (.int height) = (spot key).bar height) :
    bars mapping stacked keys belongs entry rows.zipIdx =
      .ok (Series.colored (.bar stacked) (mapping.barTable category rows (keys.map spot))) := by
  have hseries (name : String) :
      (keys.mapM fun key => do
        return entry key (← barTotal mapping (belongs key)
          (rows.zipIdx.filter fun row => mapping.seriesOf row.1 = name))) =
        .ok (keys.map fun key => (spot key).bar (mapping.total category rows name (spot key))) := by
    apply Fault.mapM_eq_ok
    intro key hkey
    rw [barTotal_eq h (hbelongs key hkey)]
    exact congrArg _ (hentry key hkey _)
  have hgroups : ∀ group ∈ groupRowsOr rows.zipIdx mapping.grouping mapping.y,
      (do
        let data ← keys.mapM fun key => do
          return entry key (← barTotal mapping (belongs key) group.2)
        return (group.1, data)) =
      (.ok (group.1, keys.map fun key =>
        (spot key).bar (mapping.total category rows group.1 (spot key))) : Except Fault _) := by
    intro group hgroup
    rw [FieldMapping.groupRowsOr_eq] at hgroup
    obtain ⟨name, -, rfl⟩ := List.mem_map.mp hgroup
    rw [hseries name]
    rfl
  rw [bars, Fault.mapM_eq_ok hgroups, FieldMapping.groupRowsOr_eq, List.zipIdx_map_fst,
    List.map_map]
  simp only [FieldMapping.barTable, List.map_map]
  rfl

theorem filter_zipIdx_of_not_isNull {column : String}
    (h : ∀ row ∈ rows, (row.get column).isNull = false) :
    (rows.zipIdx.filter fun row => !(row.1.get column).isNull) = rows.zipIdx := by
  apply List.filter_eq_self.mpr
  intro row hrow
  rw [h row.1 (List.fst_mem_of_mem_zipIdx hrow)]
  rfl

-- Rows share a bar exactly if they have the same whole number there.
theorem sharesBar_eq {column : String} {rows : List Row} {a b : PlacedRow}
    (h : ∀ row ∈ rows, ∃ n, row.get column = .int n) (ha : a ∈ rows.zipIdx)
    (hb : b ∈ rows.zipIdx) :
    sharesBar column a b = decide (a.1.whole column = b.1.whole column) := by
  obtain ⟨m, hm⟩ := h a.1 (List.fst_mem_of_mem_zipIdx ha)
  obtain ⟨n, hn⟩ := h b.1 (List.fst_mem_of_mem_zipIdx hb)
  have hplace : a.2 = b.2 → m = n := by
    intro hsame
    have harow := List.mem_zipIdx_iff_getElem?.mp ha
    have hbrow := List.mem_zipIdx_iff_getElem?.mp hb
    rw [hsame, hbrow] at harow
    rw [Option.some.inj harow, hm] at hn
    exact Cell.int.inj hn
  have hcells : (Cell.int m).same (.int n) = decide (m = n) := Number.same_int m n
  simp only [sharesBar, hm, hn, hcells, Row.whole, Cell.whole, Cell.number?]
  by_cases hmn : m = n
  · simp [hmn]
  · have hapart : a.2 ≠ b.2 := fun hsame => hmn (hplace hsame)
    simp [hmn, hapart]

theorem categoryBars_eq (hwhole : IsWhole mapping.y rows)
    (hx : ∀ row ∈ rows, (row.get mapping.x).isNull = false) (stacked : Bool) :
    categoryBars mapping stacked rows.zipIdx =
      .ok ⟨Series.colored (.bar stacked)
        (mapping.barTable (fun row => .label (row.label mapping.x)) rows
          ((sortCategories (distinct (rows.map (·.label mapping.x)))).map .label)),
        some (sortCategories (distinct (rows.map (·.label mapping.x))))⟩ := by
  have hlabels : categories rows.zipIdx mapping.x =
      sortCategories (distinct (rows.map (·.label mapping.x))) := by
    rw [categories, filter_zipIdx_of_not_isNull hx, map_zipIdx (Row.label · mapping.x)]
  rw [categoryBars, hlabels,
    bars_eq hwhole (fun row => .label (row.label mapping.x)) .label stacked]
  · rfl
  · intro label _ row _
    simp
  · intro label _ height
    rfl

theorem timeBars_eq (hwhole : IsWhole mapping.y rows)
    (hx : ∀ row ∈ rows, ∃ n, row.get mapping.x = .int n) (stacked : Bool) :
    timeBars mapping stacked rows.zipIdx =
      .ok ⟨Series.colored (.bar stacked)
        (mapping.barTable (fun row => .moment (row.whole mapping.x)) rows
          (distinct (rows.map fun row => .moment (row.whole mapping.x)))), none⟩ := by
  have hscalar : (rows.zipIdx.all fun row => (row.1.get mapping.x).isScalar) = true := by
    apply List.all_eq_true.mpr
    intro row hrow
    obtain ⟨n, hn⟩ := hx row.1 (List.fst_mem_of_mem_zipIdx hrow)
    rw [hn]
    rfl
  have hnull : ∀ row ∈ rows, (row.get mapping.x).isNull = false := by
    intro row hrow
    obtain ⟨n, hn⟩ := hx row hrow
    rw [hn]
    rfl
  have hkeys : (distinctBy (sharesBar mapping.x) rows.zipIdx).map
      (fun key => Category.moment (key.1.whole mapping.x)) =
        distinct (rows.map fun row => .moment (row.whole mapping.x)) := by
    rw [map_distinctBy, map_zipIdx fun row => Category.moment (row.whole mapping.x)]
    intro a ha b hb
    rw [sharesBar_eq hx ha hb, Bool.eq_iff_iff]
    simp
  rw [timeBars, if_pos hscalar, filter_zipIdx_of_not_isNull hnull]
  dsimp only
  rw [bars_eq hwhole (fun row => .moment (row.whole mapping.x))
    (fun key => .moment (key.1.whole mapping.x)) stacked, hkeys]
  · rfl
  · intro key hkey row hrow
    rw [sharesBar_eq hx (mem_of_mem_distinctBy hkey) hrow]
    simp [eq_comm]
  · intro key hkey height
    obtain ⟨n, hn⟩ := hx key.1 (List.fst_mem_of_mem_zipIdx (mem_of_mem_distinctBy hkey))
    simp [Category.bar, Row.whole, Cell.whole, Cell.number?, hn]

end Plot

namespace ChartConfiguration

variable (config : ChartConfiguration)

-- The category of a row whose x stands as the axis shows it.
def standsOn (row : Row) : Category :=
  if config.isTemporal then .moment (row.whole config.mapping.x)
  else .label (row.label config.mapping.x)

-- The category of a row.
def category (row : Row) : Category :=
  if config.isTemporal then .moment (row.get config.mapping.x).onTimeAxis.whole
  else .label (row.label config.mapping.x)

-- The categories of rows that stand as the axis shows them.
def axis (rows : List Row) : List Category :=
  if config.isTemporal then distinct (rows.map config.standsOn)
  else (sortCategories (distinct (rows.map (·.label config.mapping.x)))).map .label

-- The labels that an axis has unless it shows time.
def axisLabels (spots : List Category) : Option (List String) :=
  if config.isTemporal then none else some (spots.map Category.text)

-- Bars over an axis that has the category of every row once: each is the sum of its rows, and
-- together they are the sum of all.
structure AreBars (rows : List Row) (spots : List Category) (plot : Plot) : Prop where
  nodup_axis : spots.Nodup
  mem_axis : ∀ spot, spot ∈ spots ↔ ∃ row ∈ rows, config.category row = spot
  labels : plot.labels = config.axisLabels spots
  nodup_names : (plot.contents.map Prod.fst).Nodup
  mem_names : ∀ name, name ∈ plot.contents.map Prod.fst ↔
    ∃ row ∈ rows, config.mapping.seriesOf row = name
  bars : ∀ line ∈ plot.contents, line.2 =
    spots.map fun spot => spot.bar (config.mapping.total config.category rows line.1 spot)
  total : (plot.contents.map fun line => (line.2.map Entry.height).sum).sum =
    (rows.map (·.whole config.mapping.y)).sum

-- Rows whose categories are whole numbers or texts, only the former over time, and whose amounts
-- are whole.
structure SuitsBars (rows : List Row) : Prop where
  isNamed : IsNamed config.mapping.x rows
  isTimed : config.isTemporal = true → ∀ row ∈ rows, ∃ n, row.get config.mapping.x = .int n
  isWhole : IsWhole config.mapping.y rows

variable {config} {rows : List Row}

theorem SuitsBars.isCounted (h : config.SuitsBars rows) (htemporal : config.isTemporal = true) :
    IsCounted config.mapping.x rows :=
  fun row hrow => .inr (h.isTimed htemporal row hrow)

theorem SuitsBars.perm {others : List Row} (h : config.SuitsBars rows) (hperm : others.Perm rows) :
    config.SuitsBars others where
  isNamed row hrow := h.isNamed row (hperm.mem_iff.mp hrow)
  isTimed htemporal row hrow := h.isTimed htemporal row (hperm.mem_iff.mp hrow)
  isWhole row hrow := h.isWhole row (hperm.mem_iff.mp hrow)

theorem standsOn_drawn (row : Row) : config.standsOn (config.drawn row) = config.category row := by
  unfold standsOn category
  cases htemporal : config.isTemporal with
  | false => rw [drawn, htemporal]; rfl
  | true => simp only [if_true, Row.whole, get_drawn htemporal]

theorem mem_axis_iff {spot : Category} :
    spot ∈ config.axis rows ↔ ∃ row ∈ rows, config.standsOn row = spot := by
  unfold axis
  cases htemporal : config.isTemporal with
  | true => simp only [if_true, mem_distinct, List.mem_map]
  | false =>
      simp [(perm_sortCategories _).mem_iff, mem_distinct, standsOn, htemporal]

theorem nodup_axis (rows : List Row) : (config.axis rows).Nodup := by
  unfold axis
  split
  · exact nodup_distinct _
  · have hlabels := (perm_sortCategories _).nodup_iff.mpr
      (nodup_distinct (rows.map (·.label config.mapping.x)))
    exact List.pairwise_map.mpr (hlabels.imp fun hne h => hne (Category.label.inj h))

theorem total_shown (hy : config.mapping.x ≠ config.mapping.y)
    (hgroup : config.mapping.group ≠ some config.mapping.x) (rows : List Row) :
    config.mapping.total config.standsOn (config.shown rows) =
      config.mapping.total config.category rows := by
  funext name spot
  rw [FieldMapping.total_perm (perm_shown rows)]
  simp only [FieldMapping.total, List.filter_map, List.map_map, Function.comp_def, standsOn_drawn,
    seriesOf_drawn hgroup, Row.whole, get_drawn_of_ne hy.symm]

-- The axis does not depend on the order of the rows.
theorem axis_shown_of_perm {others : List Row} (h : config.SuitsBars rows)
    (hperm : others.Perm rows) :
    config.axis (config.shown others) = config.axis (config.shown rows) := by
  unfold axis
  cases htemporal : config.isTemporal with
  | true =>
      have hcounted : IsCounted config.mapping.x (rows.map config.drawn) :=
        isCounted_drawn (h.isCounted htemporal)
      have hplace : ∀ row ∈ rows.map config.drawn,
          config.standsOn row = .moment ((row.place config.mapping.x).untopD 0) := by
        intro row hrow
        obtain ⟨before, hbefore, rfl⟩ := List.mem_map.mp hrow
        obtain ⟨n, hn⟩ := h.isTimed htemporal before hbefore
        rw [standsOn, if_pos htemporal, Row.place, Row.whole, get_drawn_int htemporal hn]
        rfl
      rw [if_pos rfl, if_pos rfl, shown, shown,
        map_sortRows_of_perm (fun place => .moment (place.untopD 0)) hcounted hplace
          (hperm.map config.drawn)]
  | false =>
      rw [shown_of_not_isTemporal htemporal, shown_of_not_isTemporal htemporal,
        map_label_sortRows_of_perm h.isNamed hperm]
      rfl

theorem exists_bars (hkind : config.kind = .bar) (h : config.SuitsBars rows) :
    ∃ plot, Plot.ofRows config rows = .ok plot ∧
      plot.contents = config.mapping.barTable config.standsOn rows (config.axis rows) ∧
      plot.labels = config.axisLabels (config.axis rows) := by
  unfold Plot.ofRows axis axisLabels
  rw [hkind]
  cases htemporal : config.isTemporal with
  | true =>
      have hstands : config.standsOn = fun row => .moment (row.whole config.mapping.x) := by
        funext row
        rw [standsOn, if_pos htemporal]
      simp only [if_true, Plot.timeBars_eq h.isWhole (h.isTimed htemporal), hstands]
      exact ⟨_, rfl, Plot.contents_colored _ _ _, rfl⟩
  | false =>
      have hstands : config.standsOn = fun row => .label (row.label config.mapping.x) := by
        funext row
        simp [standsOn, htemporal]
      have hnull : ∀ row ∈ rows, (row.get config.mapping.x).isNull = false := by
        intro row hrow
        rcases h.isNamed row hrow with ⟨n, hn⟩ | ⟨s, hs⟩
        · rw [hn]
          rfl
        · rw [hs]
          rfl
      refine ⟨_, Plot.categoryBars_eq h.isWhole hnull _, ?_, ?_⟩
      · rw [Plot.contents_colored, hstands]
        rfl
      · simp [Category.text, Function.comp_def]

theorem suitsBars_shown (h : config.SuitsBars rows) (hy : config.mapping.x ≠ config.mapping.y) :
    config.SuitsBars (config.shown rows) where
  isNamed := by
    apply forall_mem_shown
    intro row hrow
    cases htemporal : config.isTemporal with
    | true =>
        obtain ⟨n, hn⟩ := h.isTimed htemporal row hrow
        exact .inl ⟨_, get_drawn_int htemporal hn⟩
    | false =>
        rw [drawn, htemporal]
        exact h.isNamed row hrow
  isTimed htemporal := by
    apply forall_mem_shown
    intro row hrow
    obtain ⟨n, hn⟩ := h.isTimed htemporal row hrow
    exact ⟨_, get_drawn_int htemporal hn⟩
  isWhole := by
    apply forall_mem_shown
    intro row hrow number hnumber
    rw [Row.number?, get_drawn_of_ne hy.symm] at hnumber
    exact h.isWhole row hrow number hnumber

-- The bars of rows, in terms of the rows as they are given.
theorem barTable_shown (hy : config.mapping.x ≠ config.mapping.y)
    (hgroup : config.mapping.group ≠ some config.mapping.x) (spots : List Category) :
    config.mapping.barTable config.standsOn (config.shown rows) spots =
      (config.mapping.seriesNames (config.shown rows)).map fun name =>
        (name, spots.map fun spot =>
          spot.bar (config.mapping.total config.category rows name spot)) := by
  rw [FieldMapping.barTable, total_shown hy hgroup]

-- In another order of the rows the series come in another order at most.
theorem barTable_shown_perm {others : List Row} (h : config.SuitsBars rows)
    (hy : config.mapping.x ≠ config.mapping.y)
    (hgroup : config.mapping.group ≠ some config.mapping.x)
    (hpresent : config.mapping.IsPresent rows) (hperm : others.Perm rows) :
    (config.mapping.barTable config.standsOn (config.shown others)
      (config.axis (config.shown others))).Perm
        (config.mapping.barTable config.standsOn (config.shown rows)
          (config.axis (config.shown rows))) := by
  have hnames : (config.mapping.seriesNames (config.shown others)).Perm
      (config.mapping.seriesNames (config.shown rows)) := by
    apply (List.perm_ext_iff_of_nodup (config.mapping.nodup_seriesNames _)
      (config.mapping.nodup_seriesNames _)).mpr
    intro name
    simp only [mem_seriesNames_shown hgroup hpresent,
      mem_seriesNames_shown hgroup (hpresent.perm hperm), hperm.mem_iff]
  rw [axis_shown_of_perm h hperm, barTable_shown hy hgroup, barTable_shown hy hgroup]
  simp only [FieldMapping.total_perm hperm]
  exact hnames.map _

theorem mem_axis_shown_iff {spot : Category} :
    spot ∈ config.axis (config.shown rows) ↔ ∃ row ∈ rows, config.category row = spot := by
  simp only [mem_axis_iff, (perm_shown rows).mem_iff, List.mem_map, exists_exists_and_eq_and,
    standsOn_drawn]

theorem areBars_of_contents {plot : Plot} (hy : config.mapping.x ≠ config.mapping.y)
    (hgroup : config.mapping.group ≠ some config.mapping.x)
    (hpresent : config.mapping.IsPresent rows)
    (hcontents : plot.contents = config.mapping.barTable config.standsOn (config.shown rows)
      (config.axis (config.shown rows)))
    (hlabels : plot.labels = config.axisLabels (config.axis (config.shown rows))) :
    config.AreBars rows (config.axis (config.shown rows)) plot := by
  rw [barTable_shown hy hgroup] at hcontents
  have hnames : plot.contents.map Prod.fst = config.mapping.seriesNames (config.shown rows) := by
    simp [hcontents, Function.comp_def]
  have hnodup := config.mapping.nodup_seriesNames (config.shown rows)
  constructor
  · exact nodup_axis _
  · exact fun spot => mem_axis_shown_iff
  · exact hlabels
  · rwa [hnames]
  · intro name
    rw [hnames, mem_seriesNames_shown hgroup hpresent]
  · intro line hline
    rw [hcontents] at hline
    obtain ⟨name, -, rfl⟩ := List.mem_map.mp hline
    rfl
  · have hseries : ∀ row ∈ rows, config.mapping.seriesOf row ∈
        config.mapping.seriesNames (config.shown rows) :=
      fun row hrow => (mem_seriesNames_shown hgroup hpresent).mpr ⟨row, hrow, rfl⟩
    have hcategory : ∀ row ∈ rows, config.category row ∈ config.axis (config.shown rows) :=
      fun row hrow => mem_axis_shown_iff.mpr ⟨row, hrow, rfl⟩
    rw [← FieldMapping.sum_total hnodup (nodup_axis _) hseries hcategory, hcontents]
    simp only [List.map_map, Function.comp_def, Category.height_bar]

end ChartConfiguration

namespace RenderSpec

variable {dates : DateReader} {config : ChartConfiguration} {rows : List Row} {theme : ThemeColors}

theorem exists_barSpec (hkind : config.kind = .bar) (h : config.SuitsBars rows)
    (hy : config.mapping.x ≠ config.mapping.y) (hpresent : config.mapping.IsPresent rows) :
    ∃ spec, ofRows dates rows config theme = .ok spec ∧
      spec.plot.contents = config.mapping.barTable config.standsOn (config.shown rows)
        (config.axis (config.shown rows)) ∧
      spec.plot.labels = config.axisLabels (config.axis (config.shown rows)) := by
  obtain ⟨plot, hplot, hcontents, hlabels⟩ :=
    ChartConfiguration.exists_bars hkind (ChartConfiguration.suitsBars_shown h hy)
  obtain ⟨spec, hspec, rfl⟩ := (exists_ofRows_iff h.isCounted).mpr ⟨hpresent, hplot⟩
  exact ⟨spec, hspec, hcontents, hlabels⟩

-- Bars lose nothing: each is the sum of the rows of its series and category, and together they are
-- the sum of all. In which order the rows come makes no difference.
theorem bars_keep_totals {spec : RenderSpec} (hspec : ofRows dates rows config theme = .ok spec)
    (hkind : config.kind = .bar) (h : config.SuitsBars rows)
    (hy : config.mapping.x ≠ config.mapping.y)
    (hgroup : config.mapping.group ≠ some config.mapping.x) :
    (config.isTemporal = true → ∀ row ∈ rows, ∃ millis,
      (row.get config.mapping.x).coerceTime dates = .ok (.int millis) ∧
        config.category row = .moment millis) ∧
    (∃ spots, config.AreBars rows spots spec.plot) ∧
    ∀ others, others.Perm rows → ∃ other, ofRows dates others config theme = .ok other ∧
      other.plot.labels = spec.plot.labels ∧ other.plot.contents.Perm spec.plot.contents := by
  obtain ⟨hpresent, -⟩ := (exists_ofRows_iff h.isCounted).mp ⟨spec, hspec, rfl⟩
  obtain ⟨found, hfound, hcontents, hlabels⟩ := exists_barSpec hkind h hy hpresent
  obtain rfl : found = spec := Except.ok.inj (hfound.symm.trans hspec)
  refine ⟨?_, ?_, ?_⟩
  · intro htemporal row hrow
    obtain ⟨n, hn⟩ := h.isTimed htemporal row hrow
    refine ⟨Epoch.millis n, ?_, ?_⟩
    · rw [Cell.coerceTime_eq dates (.inr ⟨n, hn⟩), hn]
      rfl
    · rw [ChartConfiguration.category, if_pos htemporal, hn]
      rfl
  · exact ⟨_, ChartConfiguration.areBars_of_contents hy hgroup hpresent hcontents hlabels⟩
  · intro others hperm
    obtain ⟨other, hother, hothers, hotherLabels⟩ :=
      exists_barSpec hkind (h.perm hperm) hy (hpresent.perm hperm)
    have haxis := ChartConfiguration.axis_shown_of_perm h hperm
    refine ⟨other, hother, by rw [hotherLabels, hlabels, haxis], ?_⟩
    rw [hothers, hcontents]
    exact ChartConfiguration.barTable_shown_perm h hy hgroup hpresent hperm

-- Bars by shelf, one series for each shop.
def byShop : ChartConfiguration :=
  { ChartConfiguration.default (.atClock .default ⟨0⟩ "chart_00000000") with
    kind := .bar, mapping := ⟨"shelf", "sold", some "shop"⟩ }

-- A number and a text with one label, amounts as numbers and as texts, and some that are neither.
def sales : List Row :=
  [[("shelf", .int 10), ("sold", .int 4), ("shop", .text "east")],
   [("shelf", .text "1"), ("sold", .text " 3 "), ("shop", .text "west")],
   [("shelf", .text "10"), ("sold", .text "-1"), ("shop", .text "east")],
   [("shelf", .int 1), ("sold", .null), ("shop", .text "east")],
   [("shelf", .text "9"), ("sold", .text "none"), ("shop", .null)]]

theorem bars_keep_totals_byShop :
    byShop.mapping.total byShop.category sales "east" (.label "10") = 3 ∧
      ∃ spec other, ofRows (.on ⟨2024, 3, 13⟩) sales byShop .light = .ok spec ∧
        ofRows (.on ⟨2024, 3, 13⟩) sales.reverse byShop .light = .ok other ∧
        (∃ spots, byShop.AreBars sales spots spec.plot) ∧
        other.plot.labels = spec.plot.labels ∧ other.plot.contents.Perm spec.plot.contents := by
  have hamounts : sales.map (·.number? "sold") =
      [some (.int 4), some (.int 3), some (.int (-1)), none, none] := by decide +kernel
  have hsuits : byShop.SuitsBars sales :=
    { isNamed := by simp [IsNamed, sales, byShop, Row.get, List.lookup]
      isTimed := by simp [byShop, ChartConfiguration.isTemporal, ChartConfiguration.default]
      isWhole := by
        intro row hrow number hnumber
        have hmem : row.number? "sold" ∈ sales.map (·.number? "sold") := List.mem_map_of_mem hrow
        have hsold : row.number? "sold" = some number := hnumber
        simp only [hamounts, hsold, List.mem_cons, List.not_mem_nil, Option.some.injEq,
          reduceCtorEq, or_false] at hmem
        rcases hmem with rfl | rfl | rfl
        · exact ⟨4, rfl⟩
        · exact ⟨3, rfl⟩
        · exact ⟨-1, rfl⟩ }
  have hpresent : byShop.mapping.IsPresent sales := (checkMapping_eq_ok_iff .bar).mp rfl
  obtain ⟨spec, hspec, -⟩ := exists_barSpec rfl hsuits (by decide) hpresent
  obtain ⟨-, hbars, hperm⟩ := bars_keep_totals hspec rfl hsuits (by decide) (by decide)
  obtain ⟨other, hother, hlabels, hcontents⟩ := hperm sales.reverse sales.reverse_perm
  exact ⟨by decide +kernel, spec, other, hspec, hother, hbars, hlabels, hcontents⟩

end RenderSpec

end TimePanel
