import TimePanel.Chart.RenderSpec
import TimePanel.Proofs.Chart.Coercion
import TimePanel.Proofs.Chart.Grouping
import TimePanel.Proofs.Chart.Order

/-! What a drawing is made of: columns that are there, and rows that are coerced and in order. -/

namespace TimePanel

-- Whether both axes are named and each column that is named is there in some row.
structure FieldMapping.IsPresent (mapping : FieldMapping) (rows : List Row) : Prop where
  x_ne : mapping.x ≠ ""
  y_ne : mapping.y ≠ ""
  has : ∀ name ∈ [mapping.x, mapping.y] ++ mapping.grouping.toList, ∃ row ∈ rows, row.has name

namespace FieldMapping.IsPresent

variable {mapping : FieldMapping} {rows others : List Row}

theorem perm (h : mapping.IsPresent rows) (hperm : others.Perm rows) :
    mapping.IsPresent others where
  x_ne := h.x_ne
  y_ne := h.y_ne
  has name hname := by
    obtain ⟨row, hrow, hhas⟩ := h.has name hname
    exact ⟨row, hperm.mem_iff.mpr hrow, hhas⟩

theorem rows_ne_nil (h : mapping.IsPresent rows) : rows ≠ [] := by
  obtain ⟨row, hrow, -⟩ := h.has mapping.x (by simp)
  exact List.ne_nil_of_mem hrow

end FieldMapping.IsPresent

namespace ChartConfiguration

variable {config : ChartConfiguration} {rows : List Row}

variable (config) in
-- The rows that are shown: drawn and in order.
def shown (rows : List Row) : List Row := sortRows (rows.map config.drawn) config.mapping.x

theorem perm_shown (rows : List Row) : (config.shown rows).Perm (rows.map config.drawn) :=
  perm_sortRows _ _

theorem forall_mem_shown {p : Row → Prop} (h : ∀ row ∈ rows, p (config.drawn row)) :
    ∀ row ∈ config.shown rows, p row := by
  intro row hrow
  obtain ⟨before, hbefore, rfl⟩ := List.mem_map.mp ((perm_shown rows).mem_iff.mp hrow)
  exact h before hbefore

theorem shown_of_not_isTemporal (h : config.isTemporal = false) (rows : List Row) :
    config.shown rows = sortRows rows config.mapping.x := by
  have hdrawn : rows.map config.drawn = rows := by
    conv => rhs; rw [← List.map_id rows]
    apply List.map_congr_left
    intro row _
    rw [drawn, h]
    rfl
  rw [shown, hdrawn]

theorem isCounted_drawn (h : IsCounted config.mapping.x rows) :
    IsCounted config.mapping.x (rows.map config.drawn) := by
  intro row hrow
  obtain ⟨before, hbefore, rfl⟩ := List.mem_map.mp hrow
  cases htemporal : config.isTemporal with
  | false =>
      rw [drawn, htemporal]
      exact h before hbefore
  | true =>
      rcases h before hbefore with hnull | ⟨n, hn⟩
      · exact .inl (by rw [get_drawn htemporal, hnull]; rfl)
      · exact .inr ⟨Epoch.millis n, get_drawn_int htemporal hn⟩

theorem seriesOf_drawn (hgroup : config.mapping.group ≠ some config.mapping.x) (row : Row) :
    config.mapping.seriesOf (config.drawn row) = config.mapping.seriesOf row := by
  unfold FieldMapping.seriesOf
  cases hgrouping : config.mapping.grouping with
  | none => rfl
  | some column =>
      have hcolumn : column ≠ config.mapping.x := by
        rintro rfl
        exact hgroup (Option.filter_eq_some_iff.mp hgrouping).1
      exact congrArg Cell.label (get_drawn_of_ne hcolumn)

theorem mem_seriesNames_shown (hgroup : config.mapping.group ≠ some config.mapping.x)
    (hpresent : config.mapping.IsPresent rows) {name : String} :
    name ∈ config.mapping.seriesNames (config.shown rows) ↔
      ∃ row ∈ rows, config.mapping.seriesOf row = name := by
  obtain ⟨row, hrow⟩ := List.exists_mem_of_ne_nil rows hpresent.rows_ne_nil
  have hshown : config.drawn row ∈ config.shown rows :=
    (perm_shown rows).mem_iff.mpr (List.mem_map_of_mem hrow)
  rw [FieldMapping.mem_seriesNames_iff (List.ne_nil_of_mem hshown)]
  simp only [(perm_shown rows).mem_iff, List.mem_map, exists_exists_and_eq_and,
    seriesOf_drawn hgroup]

end ChartConfiguration

namespace RenderSpec

variable {dates : DateReader} {config : ChartConfiguration} {rows : List Row}

theorem checkMapping_eq_ok_iff (kind : ChartKind) {mapping : FieldMapping} :
    checkMapping rows kind mapping = .ok () ↔ mapping.IsPresent rows := by
  unfold checkMapping
  split
  · next hempty =>
    refine ⟨nofun, fun h => ?_⟩
    rcases hempty with hx | hy
    · exact absurd (String.isEmpty_iff.mp hx) h.x_ne
    · exact absurd (String.isEmpty_iff.mp hy) h.y_ne
  · next hnamed =>
    simp only [not_or, String.isEmpty_iff] at hnamed
    split
    · next name hfound =>
      refine ⟨nofun, fun h => ?_⟩
      have hmissing := List.find?_some hfound
      obtain ⟨row, hrow, hhas⟩ := h.has name (List.mem_of_find?_eq_some hfound)
      simp only [Bool.not_eq_true', List.any_eq_false] at hmissing
      exact absurd hhas (hmissing row hrow)
    · next hfound =>
      refine ⟨fun _ => ⟨hnamed.1, hnamed.2, ?_⟩, fun _ => rfl⟩
      intro name hname
      simpa using List.find?_eq_none.mp hfound name hname

theorem preparedRows_eq
    (h : config.isTemporal = true → IsCounted config.mapping.x rows) :
    preparedRows dates config rows = .ok (config.shown rows) := by
  unfold preparedRows ChartConfiguration.shown ChartConfiguration.drawn
  cases htemporal : config.isTemporal with
  | false =>
      simp
      rfl
  | true =>
      have hcoerced : ∀ row ∈ rows, Row.coerceTime dates config.mapping.x row =
          .ok (row.set config.mapping.x (row.get config.mapping.x).onTimeAxis) := by
        intro row hrow
        rw [Row.coerceTime, Cell.coerceTime_eq dates (h htemporal row hrow)]
        rfl
      simp only [if_true, Fault.mapM_eq_ok hcoerced]
      rfl

-- There is a drawing if the columns are there and the rows, coerced and in order, make a plot.
theorem exists_ofRows_iff {theme : ThemeColors} {plot : Plot}
    (h : config.isTemporal = true → IsCounted config.mapping.x rows) :
    (∃ spec, ofRows dates rows config theme = .ok spec ∧ spec.plot = plot) ↔
      config.mapping.IsPresent rows ∧ Plot.ofRows config (config.shown rows) = .ok plot := by
  rw [← checkMapping_eq_ok_iff config.kind, ofRows, preparedRows_eq h]
  simp only [Fault.bind_eq_ok_iff, Except.ok.injEq, exists_eq_left']
  constructor
  · rintro ⟨spec, ⟨⟨⟩, hmapping, drawn, hdrawn, ⟨⟩⟩, rfl⟩
    exact ⟨hmapping, hdrawn⟩
  · rintro ⟨hmapping, hdrawn⟩
    exact ⟨_, ⟨(), hmapping, plot, hdrawn, rfl⟩, rfl⟩

end RenderSpec

end TimePanel
