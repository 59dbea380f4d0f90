import TimePanel.Proofs.Chart.Categories

/-! Rows that have no value on the x axis, in charts over labels. They come last and no label is
theirs, but a missing value has the label of the empty text. -/

namespace TimePanel

theorem Number.sum_append_eq_ok_iff {numbers others : List Number} {total : Number} :
    sum (numbers ++ others) = .ok total ↔
      ∃ start, sum numbers = .ok start ∧ others.foldlM add start = .ok total := by
  rw [sum, List.foldlM_append, Fault.bind_eq_ok_iff]
  rfl

-- Whether a plot draws an entry at a label, in the series of a name.
def Plot.Draws (plot : Plot) (name label : String) (entry : Entry) : Prop :=
  ∃ labels, plot.labels = some labels ∧ ∃ line ∈ plot.contents, line.1 = name ∧
    (label, entry) ∈ labels.zip line.2

-- A bar is the total of the rows of its series that belong to its key.
theorem Plot.exists_barTotal {κ : Type} {mapping : FieldMapping} {stacked : Bool} {keys : List κ}
    {belongs : κ → PlacedRow → Bool} {entry : κ → Number → Entry} {rows : List Row}
    {series : List Series}
    (h : Plot.bars mapping stacked keys belongs entry rows.zipIdx = .ok series)
    {labels : Option (List String)} {line : String × List Entry}
    (hline : line ∈ (Plot.mk series labels).contents) {key : κ} {drawn : Entry}
    (hdrawn : (key, drawn) ∈ keys.zip line.2) :
    ∃ total, Plot.barTotal mapping (belongs key)
      (rows.zipIdx.filter fun row => mapping.seriesOf row.1 = line.1) = .ok total ∧
        drawn = entry key total := by
  obtain ⟨lines, hlines, hseries⟩ := Fault.bind_eq_ok_iff.mp h
  cases hseries
  rw [Plot.contents_colored] at hline
  obtain ⟨group, hgroup, hline⟩ := (Fault.mem_iff_of_mapM hlines).mp hline
  obtain ⟨data, hdata, hline⟩ := Fault.bind_eq_ok_iff.mp hline
  cases hline
  obtain ⟨total, htotal, hentry⟩ := Fault.bind_eq_ok_iff.mp
    (List.forall₂_zip (Fault.forall₂_of_mapM hdata) hdrawn)
  rw [FieldMapping.groupRowsOr_eq] at hgroup
  obtain ⟨name, -, rfl⟩ := List.mem_map.mp hgroup
  exact ⟨total, htotal, (Fault.pure_eq_ok_iff.mp hentry).symm⟩

namespace ChartConfiguration

section Cells

variable (config : ChartConfiguration) (rows : List Row) (name label : String)

-- The rows of a series that have a label.
def membersAt : List Row :=
  rows.filter fun row => config.mapping.seriesOf row = name ∧ row.label config.mapping.x = label

-- What rows make of a label: a bar is the sum of them, and a line passes through the first one.
def cellOf : Except Fault Entry :=
  let members := config.membersAt rows name label
  if config.kind = .bar then do
    return .value (some (← Number.sum (members.map (Plot.amount · config.mapping.y))))
  else return .value (members.head?.bind (·.number? config.mapping.y))

-- Whether rows without an x, which share the empty label, show in the place of an empty text: a bar
-- is summed up with them, and a line that has no other row there passes through the first of them.
def Leaks : Prop :=
  let here := config.membersAt (valued config.mapping.x rows) name label
  let adrift := config.membersAt (unvalued config.mapping.x rows) name label
  label = "" ∧
    if config.kind = .bar then
      ∃ total, Number.sum (here.map (Plot.amount · config.mapping.y)) = .ok total ∧
        (adrift.map (Plot.amount · config.mapping.y)).foldlM Number.add total ≠ .ok total
    else here = [] ∧ (adrift.head?.bind (·.number? config.mapping.y)).isSome = true

end Cells

variable {config : ChartConfiguration} {rows : List Row} {plot : Plot} {name label : String}
variable {entry : Entry}

theorem barTotal_zipIdx :
    Plot.barTotal config.mapping (fun row => row.1.label config.mapping.x = label)
        (rows.zipIdx.filter fun row => config.mapping.seriesOf row.1 = name) =
      Number.sum ((config.membersAt rows name label).map (Plot.amount · config.mapping.y)) := by
  rw [Plot.barTotal, List.filter_filter, membersAt, ← map_filter_zipIdx]
  congr 3
  funext row
  rw [← Bool.decide_and, decide_eq_decide, and_comm]

theorem firstValue_eq : config.firstValue rows name label =
    .value ((config.membersAt rows name label).head?.bind (·.number? config.mapping.y)) := by
  rw [firstValue, membersAt, List.head?_filter]
  rfl

-- Every entry that is drawn is made of the rows of its series that have its label.
theorem cellOf_of_draws (htemporal : config.isTemporal = false)
    (hgathers : config.gathersRows = true) (hplot : Plot.ofRows config rows = .ok plot)
    (hdraws : plot.Draws name label entry) : config.cellOf rows name label = .ok entry := by
  have haligned := isAligned_ofRows htemporal hplot
  obtain ⟨labels, hlabels, line, hline, rfl, hentry⟩ := hdraws
  obtain rfl : config.labelsOf rows = labels := Option.some.inj (haligned.labels.symm.trans hlabels)
  by_cases hkind : config.kind = .bar
  · unfold Plot.ofRows at hplot
    simp only [hkind, htemporal, Bool.false_eq_true, if_false] at hplot
    obtain ⟨series, hseries, hplot⟩ := Fault.bind_eq_ok_iff.mp hplot
    cases hplot
    rw [← categories_zipIdx hgathers] at hentry
    obtain ⟨total, htotal, rfl⟩ := Plot.exists_barTotal hseries hline hentry
    rw [barTotal_zipIdx] at htotal
    rw [cellOf, if_pos hkind, htotal]
    rfl
  · have hgrouping : config.mapping.grouping.isSome = true := by
      simpa [gathersRows, hkind] using hgathers
    rw [haligned.first_values hkind hgrouping line hline, ← List.map_prod_left_eq_zip] at hentry
    obtain ⟨_, -, hentry⟩ := List.mem_map.mp hentry
    cases hentry
    rw [cellOf, if_neg hkind, firstValue_eq]
    rfl

theorem membersAt_eq_append
    (h : rows = valued config.mapping.x rows ++ unvalued config.mapping.x rows)
    (name label : String) :
    config.membersAt rows name label =
      config.membersAt (valued config.mapping.x rows) name label ++
        config.membersAt (unvalued config.mapping.x rows) name label := by
  conv => lhs; rw [membersAt, h, List.filter_append]
  rfl

-- Rows without an x have the empty label.
theorem membersAt_unvalued (hlabel : label ≠ "") (rows : List Row) (name : String) :
    config.membersAt (unvalued config.mapping.x rows) name label = [] := by
  rw [membersAt, List.filter_eq_nil_iff]
  intro row hrow hmember
  have hnull := (List.mem_filter.mp hrow).2
  obtain ⟨-, rfl⟩ := of_decide_eq_true hmember
  apply hlabel
  rw [Row.label]
  cases hcell : row.get config.mapping.x with
  | null => rfl
  | _ =>
      rw [hcell] at hnull
      cases hnull

-- What is drawn where rows without an x come last is made of the others alone, unless they leak.
theorem cellOf_valued_iff
    (h : rows = valued config.mapping.x rows ++ unvalued config.mapping.x rows)
    (hcell : config.cellOf rows name label = .ok entry) :
    config.cellOf (valued config.mapping.x rows) name label = .ok entry ↔
      ¬ config.Leaks rows name label := by
  rw [cellOf, membersAt_eq_append h] at hcell
  by_cases hlabel : label = ""
  · rw [Leaks, and_iff_right hlabel, cellOf]
    by_cases hkind : config.kind = .bar
    · rw [if_pos hkind, List.map_append] at hcell
      rw [if_pos hkind, if_pos hkind]
      obtain ⟨total, htotal, hcell⟩ := Fault.bind_eq_ok_iff.mp hcell
      obtain ⟨start, hstart, hadrift⟩ := Number.sum_append_eq_ok_iff.mp htotal
      cases hcell
      rw [hstart, Fault.bind_of_eq_ok rfl, Fault.pure_eq_ok_iff]
      simp only [Except.ok.injEq, exists_eq_left', hadrift, not_not, Entry.value.injEq,
        Option.some.injEq, eq_comm]
    · rw [if_neg hkind] at hcell
      rw [if_neg hkind, if_neg hkind]
      cases hcell
      cases hhere : config.membersAt (valued config.mapping.x rows) name label with
      | nil =>
          rw [Fault.pure_eq_ok_iff, and_iff_right rfl, Option.not_isSome_iff_eq_none,
            Entry.value.injEq]
          exact eq_comm
      | cons first rest => exact iff_of_true rfl fun hleaks => List.cons_ne_nil _ _ hleaks.1
  · rw [membersAt_unvalued hlabel, List.append_nil] at hcell
    exact iff_of_true hcell fun hleaks => hlabel hleaks.1

-- Where every row has an x nothing leaks.
theorem not_leaks_of_valued (h : valued config.mapping.x rows = rows) (name label : String) :
    ¬ config.Leaks (sortRows rows config.mapping.x) name label := by
  have hnone : unvalued config.mapping.x (sortRows rows config.mapping.x) = [] := by
    rw [unvalued, List.filter_eq_nil_iff]
    intro row hrow hnull
    rw [(perm_sortRows rows _).mem_iff, ← h] at hrow
    have hvalue := (List.mem_filter.mp hrow).2
    rw [hnull] at hvalue
    cases hvalue
  rw [Leaks, hnone]
  rintro ⟨-, hleaks⟩
  split at hleaks
  · obtain ⟨total, -, hadds⟩ := hleaks
    exact hadds rfl
  · cases hleaks.2

theorem labelsOf_valued (hgathers : config.gathersRows = true) (rows : List Row) :
    config.labelsOf (valued config.mapping.x rows) = config.labelsOf rows := by
  rw [labelsOf, labelsOf, if_pos hgathers, if_pos hgathers, valued, List.filter_filter]
  simp only [Bool.and_self]

-- Each series has an entry at each label.
theorem IsAligned.exists_draws {axis : List String} (h : config.IsAligned rows axis plot)
    (hname : name ∈ config.mapping.seriesNames rows) (hlabel : label ∈ axis) :
    ∃ entry, plot.Draws name label entry := by
  rw [← h.names] at hname
  obtain ⟨line, hline, rfl⟩ := List.mem_map.mp hname
  obtain ⟨place, hplace, rfl⟩ := List.mem_iff_getElem.mp hlabel
  have hdata : place < line.2.length := by
    rw [h.length_data line hline]
    exact hplace
  refine ⟨line.2[place], _, h.labels, line, hline, rfl, ?_⟩
  rw [List.mem_iff_getElem]
  exact ⟨place, by rw [List.length_zip]; exact lt_min hplace hdata, List.getElem_zip⟩

end ChartConfiguration

namespace RenderSpec

variable {dates : DateReader} {config : ChartConfiguration} {rows : List Row} {theme : ThemeColors}

theorem plot_eq_ok {spec : RenderSpec} (hspec : ofRows dates rows config theme = .ok spec)
    (htemporal : config.isTemporal = false) :
    Plot.ofRows config (sortRows rows config.mapping.x) = .ok spec.plot := by
  have hcounted : config.isTemporal = true → IsCounted config.mapping.x rows := by
    rw [htemporal]
    exact nofun
  rw [← ChartConfiguration.shown_of_not_isTemporal htemporal]
  exact ((exists_ofRows_iff hcounted).mp ⟨spec, hspec, rfl⟩).2

theorem labels_eq_labelsOf_valued {spec : RenderSpec}
    (hspec : ofRows dates rows config theme = .ok spec) (htemporal : config.isTemporal = false)
    (hgathers : config.gathersRows = true) :
    spec.plot.labels =
      some (config.labelsOf (valued config.mapping.x (sortRows rows config.mapping.x))) := by
  rw [ChartConfiguration.labelsOf_valued hgathers]
  exact (ChartConfiguration.isAligned_ofRows htemporal (plot_eq_ok hspec htemporal)).labels

theorem cellOf_valued_iff_of_draws {spec : RenderSpec}
    (hspec : ofRows dates rows config theme = .ok spec) (htemporal : config.isTemporal = false)
    (hgathers : config.gathersRows = true) {name label : String} {entry : Entry}
    (hdraws : spec.plot.Draws name label entry) :
    config.cellOf (valued config.mapping.x (sortRows rows config.mapping.x)) name label =
        .ok entry ↔
      ¬ config.Leaks (sortRows rows config.mapping.x) name label :=
  ChartConfiguration.cellOf_valued_iff (sortRows_eq_append rows config.mapping.x)
    (ChartConfiguration.cellOf_of_draws htemporal hgathers (plot_eq_ok hspec htemporal) hdraws)

theorem exists_draws {spec : RenderSpec} (hspec : ofRows dates rows config theme = .ok spec)
    (htemporal : config.isTemporal = false) (hgathers : config.gathersRows = true) {row : Row}
    (hrow : row ∈ rows) {label : String}
    (hlabel : label ∈ config.labelsOf (sortRows rows config.mapping.x)) :
    ∃ entry, spec.plot.Draws (config.mapping.seriesOf row) label entry ∧
      config.cellOf (sortRows rows config.mapping.x) (config.mapping.seriesOf row) label =
        .ok entry := by
  have hplot := plot_eq_ok hspec htemporal
  have hmember := (perm_sortRows rows config.mapping.x).mem_iff.mpr hrow
  obtain ⟨entry, hdraws⟩ := (ChartConfiguration.isAligned_ofRows htemporal hplot).exists_draws
    ((FieldMapping.mem_seriesNames_iff (List.ne_nil_of_mem hmember)).mpr ⟨row, hmember, rfl⟩) hlabel
  exact ⟨entry, hdraws, ChartConfiguration.cellOf_of_draws htemporal hgathers hplot hdraws⟩

-- In charts over labels the labels are those of the rows that have an x, and so are the entries,
-- except where rows without one leak into the place of an empty text. Everywhere else rows without
-- an x can be put in or left out, as long as the others have one order.
theorem cells_of_valued {spec : RenderSpec} (hspec : ofRows dates rows config theme = .ok spec)
    (htemporal : config.isTemporal = false) (hgathers : config.gathersRows = true) :
    let x := config.mapping.x
    let sorted := sortRows rows x
    spec.plot.labels = some (config.labelsOf (valued x sorted)) ∧
      (∀ row ∈ rows, ∀ label ∈ config.labelsOf (valued x sorted),
        ∃ entry, spec.plot.Draws (config.mapping.seriesOf row) label entry ∧
          config.cellOf sorted (config.mapping.seriesOf row) label = .ok entry) ∧
      (∀ name label entry, spec.plot.Draws name label entry →
        (config.cellOf (valued x sorted) name label = .ok entry ↔
          ¬ config.Leaks sorted name label)) ∧
      ∀ others other, ofRows dates others config theme = .ok other →
        valued x others = valued x rows → IsOrdered x rows →
        other.plot.labels = spec.plot.labels ∧
          ∀ name label entry changed, spec.plot.Draws name label entry →
            other.plot.Draws name label changed → ¬ config.Leaks (sortRows others x) name label →
              (changed = entry ↔ ¬ config.Leaks sorted name label) := by
  intro x sorted
  have hlabels := labels_eq_labelsOf_valued hspec htemporal hgathers
  refine ⟨hlabels, ?_, ?_, ?_⟩
  · intro row hrow label hlabel
    rw [ChartConfiguration.labelsOf_valued hgathers] at hlabel
    exact exists_draws hspec htemporal hgathers hrow hlabel
  · intro name label entry hdraws
    exact cellOf_valued_iff_of_draws hspec htemporal hgathers hdraws
  · intro others other hother hsame hordered
    have hsorted : valued x (sortRows others x) = valued x sorted := by
      have hordered' := hordered
      rw [← isOrdered_valued, ← hsame, isOrdered_valued] at hordered'
      rw [← sortRows_valued hordered, ← sortRows_valued hordered', hsame]
    refine ⟨?_, ?_⟩
    · rw [labels_eq_labelsOf_valued hother htemporal hgathers, hsorted, hlabels]
    · intro name label entry changed hdraws hdraws' hkept
      have hchanged := (cellOf_valued_iff_of_draws hother htemporal hgathers hdraws').mpr hkept
      rw [hsorted] at hchanged
      rw [← cellOf_valued_iff_of_draws hspec htemporal hgathers hdraws, hchanged,
        Except.ok.injEq]

-- Two visits to one shop, on a day without a name and on no day.
def nameless : Row := [("day", .text ""), ("visits", .int 1), ("shop", .text "a")]

def undated : Row := [("day", .null), ("visits", .int 2), ("shop", .text "a")]

theorem sortRows_undated : sortRows [nameless, undated] "day" = [nameless, undated] := by cbv

theorem sortRows_nameless : sortRows [nameless] "day" = [nameless] := by cbv

theorem sortCategories_empty : sortCategories [""] = [""] := by cbv

-- The line of the shop passes through the first of them, whether there is the other or not.
theorem cells_of_valued_undated :
    ∃ spec other, ofRows (.on ⟨2024, 3, 13⟩) [nameless, undated] visits .light = .ok spec ∧
      ofRows (.on ⟨2024, 3, 13⟩) [nameless] visits .light = .ok other ∧
      spec.plot.labels = some [""] ∧ other.plot.labels = spec.plot.labels ∧
      spec.plot.Draws "a" "" (.value (some (.int 1))) ∧
      ∀ changed, other.plot.Draws "a" "" changed → changed = .value (some (.int 1)) := by
  have hdrawn : ∃ spec other,
      ofRows (.on ⟨2024, 3, 13⟩) [nameless, undated] visits .light = .ok spec ∧
        ofRows (.on ⟨2024, 3, 13⟩) [nameless] visits .light = .ok other :=
    ⟨_, _, rfl, rfl⟩
  obtain ⟨spec, other, hspec, hother⟩ := hdrawn
  obtain ⟨hlabels, hdraws, -, hothers⟩ := cells_of_valued hspec rfl rfl
  have hempty : visits.labelsOf (valued "day" (sortRows [nameless, undated] "day")) = [""] := by
    rw [sortRows_undated]
    exact sortCategories_empty
  obtain ⟨entry, hentry, hcell⟩ := hdraws nameless List.mem_cons_self ""
    (hempty ▸ List.mem_singleton_self "")
  change visits.cellOf (sortRows [nameless, undated] "day") "a" "" = .ok entry at hcell
  rw [sortRows_undated] at hcell
  cases hcell
  have hordered : IsOrdered "day" [nameless, undated] := by
    simp [IsOrdered, nameless, undated, Row.get]
  obtain ⟨hsame, hchanged⟩ := hothers [nameless] other hother rfl hordered
  refine ⟨spec, other, hspec, hother, hlabels.trans (congrArg some hempty), hsame, hentry, ?_⟩
  intro changed hdrawn
  refine (hchanged "a" "" _ changed hentry hdrawn ?_).mpr ?_
  · exact ChartConfiguration.not_leaks_of_valued rfl "a" ""
  · change ¬ visits.Leaks (sortRows [nameless, undated] "day") "a" ""
    rw [sortRows_undated]
    rintro ⟨-, hleaks⟩
    rw [if_neg (by decide)] at hleaks
    exact List.cons_ne_nil _ _ hleaks.1

-- Bars by day.
def byDay : ChartConfiguration :=
  { ChartConfiguration.default (.atClock .default ⟨0⟩ "chart_00000000") with
    kind := .bar, mapping := ⟨"day", "visits", none⟩ }

-- The one bar of rows that are in order and have no labels but the empty one.
theorem exists_bar {rows : List Row} {total : Number} (hsorted : sortRows rows "day" = rows)
    (hpresent : byDay.mapping.IsPresent rows) (hlabels : byDay.labelsOf rows = [""])
    (htotal : Plot.barTotal byDay.mapping (fun row => row.1.label "day" = "") rows.zipIdx =
      .ok total) :
    ∃ spec, ofRows dates rows byDay theme = .ok spec ∧
      spec.plot.Draws "visits" "" (.value (some total)) := by
  have hplot : Plot.ofRows byDay rows =
      .ok ⟨Series.colored (.bar false) [("visits", [.value (some total)])], some [""]⟩ := by
    change Plot.categoryBars byDay.mapping false rows.zipIdx = _
    rw [Plot.categoryBars, ChartConfiguration.categories_zipIdx rfl, hlabels, Plot.bars]
    have hone : groupRowsOr rows.zipIdx byDay.mapping.grouping byDay.mapping.y =
        [("visits", rows.zipIdx)] := rfl
    simp only [hone, List.mapM_cons, List.mapM_nil, pure_bind, bind_assoc]
    exact Fault.bind_of_eq_ok htotal _
  have hnottemporal : byDay.isTemporal = true → IsCounted "day" rows := nofun
  obtain ⟨spec, hspec, hdrawn⟩ := (exists_ofRows_iff hnottemporal).mpr ⟨hpresent, by
    rw [ChartConfiguration.shown_of_not_isTemporal rfl]
    exact hsorted.symm ▸ hplot⟩
  refine ⟨spec, hspec, ?_⟩
  rw [hdrawn]
  exact ⟨_, rfl, _, List.mem_singleton_self _, rfl, List.mem_singleton_self _⟩

-- The bar of that day is the sum of both, though only one of them has a day.
theorem bar_of_undated :
    byDay.isTemporal = false ∧ valued "day" [nameless, undated] = [nameless] ∧
      ∃ spec other, ofRows (.on ⟨2024, 3, 13⟩) [nameless, undated] byDay .light = .ok spec ∧
        ofRows (.on ⟨2024, 3, 13⟩) [nameless] byDay .light = .ok other ∧
        spec.plot.Draws "visits" "" (.value (some (.int 3))) ∧
        other.plot.Draws "visits" "" (.value (some (.int 1))) := by
  obtain ⟨spec, hspec, hdraws⟩ := exists_bar sortRows_undated
    ((checkMapping_eq_ok_iff .bar).mp rfl) sortCategories_empty rfl
  obtain ⟨other, hother, hdraws'⟩ := exists_bar sortRows_nameless
    ((checkMapping_eq_ok_iff .bar).mp rfl) sortCategories_empty rfl
  exact ⟨rfl, rfl, spec, other, hspec, hother, hdraws, hdraws'⟩

end RenderSpec

end TimePanel
