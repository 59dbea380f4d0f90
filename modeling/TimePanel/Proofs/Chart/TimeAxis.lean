import TimePanel.Chart.Synthesis
import TimePanel.Proofs.Chart.TimeLine
import TimePanel.Proofs.Number.Binary64
import TimePanel.Proofs.TimeRange.Bounds

/-! Lines and areas along time are drawn whatever their x cells hold, unless a cell is read as a
time that cannot be counted. -/

namespace TimePanel

namespace Instant

-- The unit of a float is coarse only where the float is small, so counting it in nanoseconds does
-- not leave the range of floats.
theorem abs_mul_nanos_le {x : Binary64} {q : Rat} (h : x.IsStandard) (hq : x.toRat? = some q) :
    |q * (Epoch.unitOf (.float x)).nanos| ≤ Binary64.maxFinite := by
  have hsize := Number.lt_int_float (Binary64.toRat?_abs hq) 1000000000000000000
  by_cases hlarge : (1000000000000000000 : Rat) < |q|
  · have hunit : Epoch.unitOf (.float x) = .nanoseconds := by
      unfold Epoch.unitOf Epoch.nanosecondLimit Number.abs
      exact if_pos (hsize.trans (decide_eq_true hlarge))
    rw [hunit]
    simpa [TimeUnit.nanos] using Binary64.abs_le_maxFinite h hq
  · have hnanos (unit : TimeUnit) : (unit.nanos : Rat) ≤ 1000000000 := by
      cases unit <;> norm_num [TimeUnit.nanos]
    rw [abs_mul, Nat.abs_cast]
    calc |q| * (Epoch.unitOf (.float x)).nanos
        ≤ 1000000000000000000 * 1000000000 :=
          mul_le_mul (not_lt.mp hlarge) (hnanos _) (Nat.cast_nonneg _) (by norm_num)
      _ ≤ Binary64.maxFinite := by decide +kernel

-- Of the numbers that may count time only infinity stands for no instant.
theorem exists_ofEpoch {n : Number} (h : n.IsStandard) (hepoch : Epoch.isPlausible n = true)
    (hfinite : n ≠ .float (.infinite false)) : ∃ instant, ofEpoch n = .ok instant := by
  unfold ofEpoch ofTicks
  cases n with
  | int n => exact ⟨_, rfl⟩
  | float x =>
      cases x with
      | nan => cases hepoch
      | infinite negative =>
          cases negative with
          | true => exact absurd hepoch (by decide)
          | false => exact absurd rfl hfinite
      | finite negative significand exponent =>
          have hx : Binary64.IsStandard (.finite negative significand exponent) := h
          obtain ⟨ns, hns⟩ := Binary64.exists_round_scale
            (x := .finite negative significand exponent) rfl (abs_mul_nanos_le hx rfl)
          dsimp only
          rw [hns]
          exact ⟨⟨ns⟩, rfl⟩

end Instant

-- Whether a moment is given on a clock that is a day or more from universal time.
def DateTime.IsOff (value : DateTime) : Prop :=
  Instant.secondsPerDay ≤ (value.offset.getD 0).natAbs

theorem Instant.exists_ofDateTime_iff {value : DateTime} :
    (∃ instant, ofDateTime value = .ok instant) ↔ ¬ value.IsOff := by
  unfold ofDateTime DateTime.IsOff
  dsimp only
  split
  · next hoffset => simpa using hoffset
  · next hoffset => simpa using hoffset

namespace Cell

-- What reading a cell as a time comes to, in each way in which a cell is read as one.
inductive IsReadAs (dates : DateReader) : Cell → Except Fault Instant → Prop
  | moment (value : DateTime) : IsReadAs dates (.dateTime value) (Instant.ofDateTime value)
  | count {cell : Cell} {n : Number} (hn : cell.number? = some n)
      (hepoch : Epoch.isPlausible n = true) : IsReadAs dates cell (Instant.ofEpoch n)
  | written {s : String} {value : DateTime} (hnumber : Literal.number? s.toList = none)
      (hblank : Text.strip s.toList ≠ []) (hvalue : dates.free s.toList = .ok value) :
      IsReadAs dates (.text s) (Instant.ofDateTime value)

-- A cell as an axis of time shows it: in milliseconds if it is read as a time, else unchanged.
def IsShownAs (dates : DateReader) (cell shown : Cell) : Prop :=
  (∃ instant, IsReadAs dates cell (.ok instant) ∧ shown = .int instant.epochMillis) ∨
    (∀ outcome, ¬ IsReadAs dates cell outcome) ∧ shown = cell

-- The cells that are read as a time that cannot be counted: infinity, and moments on clocks that
-- are a day or more from universal time.
inductive HasNoInstant (dates : DateReader) : Cell → Prop
  | infinite {cell : Cell} (hn : cell.number? = some (.float (.infinite false))) :
      HasNoInstant dates cell
  | moment {value : DateTime} (hoff : value.IsOff) : HasNoInstant dates (.dateTime value)
  | written {s : String} {value : DateTime} (hnumber : Literal.number? s.toList = none)
      (hblank : Text.strip s.toList ≠ []) (hvalue : dates.free s.toList = .ok value)
      (hoff : value.IsOff) : HasNoInstant dates (.text s)

-- Whether a cell holds no float outside of the format.
def IsStandard (cell : Cell) : Prop := ∀ n, cell.plainNumber? = some n → n.IsStandard

variable {dates : DateReader} {cell : Cell} {outcome : Except Fault Instant}

theorem isStandard_of_number? (h : cell.IsStandard) {n : Number} (hn : cell.number? = some n) :
    n.IsStandard := by
  cases cell with
  | int value => exact h n hn
  | float value => exact h n hn
  | text s => exact Literal.isStandard_number? hn
  | _ => cases hn

theorem coerceTime_of_isReadAs (h : IsReadAs dates cell outcome) :
    cell.coerceTime dates = outcome.map fun instant => .int instant.epochMillis := by
  cases h with
  | moment value => rfl
  | @count _ n hn hepoch =>
      have hclock : ∀ value, cell ≠ .dateTime value := by
        rintro value rfl
        cases hn
      unfold coerceTime
      split
      · next value => exact absurd rfl (hclock value)
      · rw [hn]
        exact if_pos hepoch
  | written hnumber hblank hvalue =>
      simp only [coerceTime, number?, hnumber, List.isEmpty_iff, hblank, if_false, hvalue]
      rfl

theorem coerceTime_of_not_isReadAs (hdates : dates.FailsOnValues)
    (h : ∀ outcome, ¬ IsReadAs dates cell outcome) : cell.coerceTime dates = .ok cell := by
  unfold coerceTime
  split
  · next value => exact absurd (.moment value) (h _)
  · next hclock =>
    split
    · next n hn =>
      exact if_neg fun hepoch => h _ (.count hn hepoch)
    · next hnumber =>
      split
      · next s =>
        split
        · rfl
        · next hblank =>
          split
          · next value hvalue =>
            exact absurd (.written hnumber (by simpa using hblank) hvalue) (h _)
          · next fault hfault => exact if_pos (hdates.free _ fault hfault)
      · rfl

theorem hasNoInstant_iff (hcell : cell.IsStandard) :
    HasNoInstant dates cell ↔ ∃ fault, IsReadAs dates cell (.error fault) := by
  have hoff {value : DateTime} (h : value.IsOff) :
      ∃ fault, Instant.ofDateTime value = .error fault := by
    cases hvalue : Instant.ofDateTime value with
    | error fault => exact ⟨fault, rfl⟩
    | ok instant => exact absurd h (Instant.exists_ofDateTime_iff.mp ⟨instant, hvalue⟩)
  constructor
  · rintro (hn | hmoment | ⟨hnumber, hblank, hvalue, hwritten⟩)
    · exact ⟨_, .count hn (by decide)⟩
    · obtain ⟨fault, hfault⟩ := hoff hmoment
      exact ⟨fault, hfault ▸ .moment _⟩
    · obtain ⟨fault, hfault⟩ := hoff hwritten
      exact ⟨fault, hfault ▸ .written hnumber hblank hvalue⟩
  · rintro ⟨fault, hread⟩
    generalize houtcome : (.error fault : Except Fault Instant) = outcome at hread
    have hoff {value : DateTime} (h : .error fault = Instant.ofDateTime value) : value.IsOff := by
      by_contra hnot
      obtain ⟨instant, hinstant⟩ := Instant.exists_ofDateTime_iff.mpr hnot
      rw [hinstant] at h
      cases h
    cases hread with
    | moment value => exact .moment (hoff houtcome)
    | @count _ n hn hepoch =>
        by_cases hfinite : n = .float (.infinite false)
        · exact .infinite (hfinite ▸ hn)
        · obtain ⟨instant, hinstant⟩ :=
            Instant.exists_ofEpoch (isStandard_of_number? hcell hn) hepoch hfinite
          rw [hinstant] at houtcome
          cases houtcome
    | written hnumber hblank hvalue => exact .written hnumber hblank hvalue (hoff houtcome)

-- Coercion fails exactly where a cell is read as a time that cannot be counted.
theorem exists_coerceTime_iff (hdates : dates.FailsOnValues) (hcell : cell.IsStandard) :
    (∃ shown, cell.coerceTime dates = .ok shown) ↔ ¬ HasNoInstant dates cell := by
  rw [hasNoInstant_iff hcell]
  constructor
  · rintro ⟨shown, hshown⟩ ⟨fault, hread⟩
    rw [coerceTime_of_isReadAs hread] at hshown
    cases hshown
  · intro hnone
    by_cases hread : ∃ outcome, IsReadAs dates cell outcome
    · obtain ⟨outcome, hread⟩ := hread
      cases outcome with
      | error fault => exact absurd ⟨fault, hread⟩ hnone
      | ok instant => exact ⟨_, coerceTime_of_isReadAs hread⟩
    · exact ⟨cell, coerceTime_of_not_isReadAs hdates fun outcome h => hread ⟨outcome, h⟩⟩

theorem isShownAs_of_coerceTime (hdates : dates.FailsOnValues) {shown : Cell}
    (h : cell.coerceTime dates = .ok shown) : IsShownAs dates cell shown := by
  by_cases hread : ∃ outcome, IsReadAs dates cell outcome
  · obtain ⟨outcome, hread⟩ := hread
    rw [coerceTime_of_isReadAs hread, Fault.map_eq_ok_iff] at h
    obtain ⟨instant, rfl, rfl⟩ := h
    exact .inl ⟨instant, hread, rfl⟩
  · have hread : ∀ outcome, ¬ IsReadAs dates cell outcome := fun outcome h => hread ⟨outcome, h⟩
    rw [coerceTime_of_not_isReadAs hdates hread] at h
    exact .inr ⟨hread, (Except.ok.inj h).symm⟩

-- A cell after coercion; one that cannot be coerced stands for itself.
def onAxis (dates : DateReader) (cell : Cell) : Cell :=
  (cell.coerceTime dates).toOption.getD cell

theorem coerceTime_eq_onAxis (h : ∃ shown, cell.coerceTime dates = .ok shown) :
    cell.coerceTime dates = .ok (cell.onAxis dates) := by
  obtain ⟨shown, hshown⟩ := h
  rw [onAxis, hshown]
  rfl

end Cell

namespace ChartConfiguration

variable {config : ChartConfiguration} {dates : DateReader} {rows others : List Row}

variable (config dates) in
-- A row with its x as an axis of time shows it.
def placed (row : Row) : Row :=
  row.set config.mapping.x ((row.get config.mapping.x).onAxis dates)

theorem exists_preparedRows_iff (htemporal : config.isTemporal = true) :
    (∃ prepared, RenderSpec.preparedRows dates config rows = .ok prepared) ↔
      ∀ row ∈ rows, ∃ shown, (row.get config.mapping.x).coerceTime dates = .ok shown := by
  unfold RenderSpec.preparedRows
  rw [if_pos htemporal]
  have hrow (row : Row) : (∃ result, Row.coerceTime dates config.mapping.x row = .ok result) ↔
      ∃ shown, (row.get config.mapping.x).coerceTime dates = .ok shown := by
    simp [Row.coerceTime, Fault.map_eq_ok_iff]
  simp only [← hrow, ← Fault.exists_mapM_iff, Fault.bind_eq_ok_iff, Fault.pure_eq_ok_iff]
  constructor
  · rintro ⟨_, results, hresults, -⟩
    exact ⟨results, hresults⟩
  · rintro ⟨results, hresults⟩
    exact ⟨_, results, hresults, rfl⟩

theorem preparedRows_eq_placed (htemporal : config.isTemporal = true)
    (h : ∀ row ∈ rows, ∃ shown, (row.get config.mapping.x).coerceTime dates = .ok shown) :
    RenderSpec.preparedRows dates config rows =
      .ok (sortRows (rows.map (config.placed dates)) config.mapping.x) := by
  have hcoerced : ∀ row ∈ rows,
      Row.coerceTime dates config.mapping.x row = .ok (config.placed dates row) := by
    intro row hrow
    rw [Row.coerceTime, Cell.coerceTime_eq_onAxis (h row hrow)]
    rfl
  unfold RenderSpec.preparedRows
  simp only [if_pos htemporal, Fault.mapM_eq_ok hcoerced]
  rfl

theorem areLabelsWritten_of_perm (h : others.Perm rows) :
    config.areLabelsWritten others = config.areLabelsWritten rows := by
  have hwritten : isWritten others = isWritten rows := by
    funext column
    rw [Bool.eq_iff_iff]
    simp only [isWritten, List.all_eq_true, h.mem_iff]
  rw [areLabelsWritten, areLabelsWritten, hwritten, isNumericColumn_of_perm h]

-- A plot along time holds one point for each row.
theorem perm_timeLine (shape : SeriesShape) (mapping : FieldMapping) (rows : List Row) :
    ((Plot.timeLine shape mapping rows.zipIdx).contents.flatMap Prod.snd).Perm
      (rows.map mapping.plainPoint) := by
  have hall : ∀ row ∈ rows, mapping.seriesOf row ∈ mapping.seriesNames rows := by
    intro row hrow
    exact (FieldMapping.mem_seriesNames_iff (List.ne_nil_of_mem hrow)).mpr ⟨row, hrow, rfl⟩
  have hparts := (perm_flatMap_filter (mapping.nodup_seriesNames rows) hall).map mapping.plainPoint
  rw [FieldMapping.contents_timeLine]
  simpa only [List.map_flatMap, List.flatMap_map] using hparts

-- Along time a drawing holds every row with its x as the axis shows it. There is one if the columns
-- are there and every x can be coerced; nothing after that can fail.
theorem ofRows_eq_ok (hkind : config.kind ≠ .bar) (htemporal : config.isTemporal = true)
    {colors : ThemeColors} {spec : RenderSpec}
    (h : RenderSpec.ofRows dates rows config colors = .ok spec) :
    config.mapping.IsPresent rows ∧
      (∀ row ∈ rows, ∃ shown, (row.get config.mapping.x).coerceTime dates = .ok shown) ∧
      (spec.plot.contents.flatMap Prod.snd).Perm
        ((rows.map (config.placed dates)).map config.mapping.plainPoint) := by
  simp only [RenderSpec.ofRows, Fault.bind_eq_ok_iff, Fault.pure_eq_ok_iff] at h
  obtain ⟨⟨⟩, hmapping, prepared, hprepared, plot, hplot, rfl⟩ := h
  have hcoerced := (exists_preparedRows_iff htemporal).mp ⟨prepared, hprepared⟩
  obtain rfl : sortRows _ _ = prepared :=
    Except.ok.inj ((preparedRows_eq_placed htemporal hcoerced).symm.trans hprepared)
  obtain ⟨shape, hline⟩ := config.exists_timeLine hkind htemporal
    (sortRows (rows.map (config.placed dates)) config.mapping.x)
  obtain rfl : Plot.timeLine shape config.mapping _ = plot :=
    Except.ok.inj (hline.symm.trans hplot)
  exact ⟨(RenderSpec.checkMapping_eq_ok_iff _).mp hmapping, hcoerced,
    (perm_timeLine shape config.mapping _).trans ((perm_sortRows _ _).map _)⟩

theorem exists_ofRows (hkind : config.kind ≠ .bar) (htemporal : config.isTemporal = true)
    (colors : ThemeColors) (hpresent : config.mapping.IsPresent rows)
    (h : ∀ row ∈ rows, ∃ shown, (row.get config.mapping.x).coerceTime dates = .ok shown) :
    ∃ spec, RenderSpec.ofRows dates rows config colors = .ok spec := by
  obtain ⟨shape, hline⟩ := config.exists_timeLine hkind htemporal
    (sortRows (rows.map (config.placed dates)) config.mapping.x)
  unfold RenderSpec.ofRows
  rw [(RenderSpec.checkMapping_eq_ok_iff config.kind).mpr hpresent,
    Fault.bind_of_eq_ok rfl, preparedRows_eq_placed htemporal h, Fault.bind_of_eq_ok rfl,
    hline]
  exact ⟨_, rfl⟩

variable {env : Surroundings} {theme : Cell}

theorem renderSpecOf_eq_ok_iff (htemporal : config.isTemporal = true) {spec : RenderSpec} :
    config.renderSpecOf env rows theme = .ok spec ↔
      ∃ colors, ThemeColors.ofChoice theme = .valid colors ∧
        RenderSpec.ofRows env.dates rows config colors = .ok spec ∧
        (∀ row ∈ rows, ∃ shown, (row.get config.mapping.x).coerceTime env.dates = .ok shown) ∧
        config.areLabelsWritten (rows.map (config.placed env.dates)) = true := by
  have htheme (colors : ThemeColors) : (ThemeColors.ofChoice theme).toExcept = .ok colors ↔
      ThemeColors.ofChoice theme = .valid colors := by
    cases ThemeColors.ofChoice theme with
    | valid known => simp [Checked.toExcept]
    | invalid problems => simp [Checked.toExcept]
  simp only [renderSpecOf, Fault.bind_eq_ok_iff, htheme]
  constructor
  · rintro ⟨colors, hcolors, drawn, hdrawn, prepared, hprepared, hlabels⟩
    have hcoerced := (exists_preparedRows_iff htemporal).mp ⟨prepared, hprepared⟩
    obtain rfl : sortRows _ _ = prepared :=
      Except.ok.inj ((preparedRows_eq_placed htemporal hcoerced).symm.trans hprepared)
    rw [areLabelsWritten_of_perm (perm_sortRows _ _)] at hlabels
    split at hlabels
    · next hwritten =>
      obtain rfl := Fault.pure_eq_ok_iff.mp hlabels
      exact ⟨colors, hcolors, hdrawn, hcoerced, hwritten⟩
    · cases hlabels
  · rintro ⟨colors, hcolors, hdrawn, hcoerced, hwritten⟩
    refine ⟨colors, hcolors, spec, hdrawn, _, preparedRows_eq_placed htemporal hcoerced, ?_⟩
    rw [areLabelsWritten_of_perm (perm_sortRows _ _), if_pos hwritten]
    rfl

theorem renderSpec_synthesize (hrows : rows ≠ []) :
    (config.synthesize env rows theme).renderSpec =
      (config.renderSpecOf env rows theme).toOption.map (·.fields) := by
  have hempty : ¬ rows.isEmpty = true := by simpa using hrows
  rw [synthesize, if_neg hempty]

theorem isSome_renderSpec_iff :
    (config.synthesize env rows theme).renderSpec.isSome = true ↔
      rows ≠ [] ∧ ∃ spec, config.renderSpecOf env rows theme = .ok spec := by
  by_cases hrows : rows = []
  · rw [hrows]
    simp [synthesize]
  · rw [renderSpec_synthesize hrows]
    cases config.renderSpecOf env rows theme with
    | ok spec => simp [hrows, Except.toOption]
    | error fault => simp [Except.toOption]

-- Whatever the x cells of a line or an area over time hold, it is drawn, unless one of them is
-- read as a time that cannot be counted or a label is a whole number that is too long to be
-- written. All rows are in the drawing, and what is read as no time stands there unchanged.
theorem isSome_renderSpec_iff_counted (hdates : env.dates.FailsOnValues)
    (hkind : config.kind ≠ .bar) (htemporal : config.isTemporal = true)
    (hcells : ∀ row ∈ rows, (row.get config.mapping.x).IsStandard) :
    ((config.synthesize env rows theme).renderSpec.isSome = true ↔
      (∃ colors, ThemeColors.ofChoice theme = .valid colors) ∧ config.mapping.IsPresent rows ∧
        (∀ row ∈ rows, ¬ (row.get config.mapping.x).HasNoInstant env.dates) ∧
        config.areLabelsWritten (rows.map (config.placed env.dates)) = true) ∧
    (∀ row ∈ rows, ¬ (row.get config.mapping.x).HasNoInstant env.dates →
      (row.get config.mapping.x).IsShownAs env.dates
        ((config.placed env.dates row).get config.mapping.x)) ∧
    ∀ spec, config.renderSpecOf env rows theme = .ok spec →
      (spec.plot.contents.flatMap Prod.snd).Perm
        ((rows.map (config.placed env.dates)).map config.mapping.plainPoint) := by
  have hcoerced (row : Row) (hrow : row ∈ rows) :
      (∃ shown, (row.get config.mapping.x).coerceTime env.dates = .ok shown) ↔
        ¬ (row.get config.mapping.x).HasNoInstant env.dates :=
    Cell.exists_coerceTime_iff hdates (hcells row hrow)
  refine ⟨?_, ?_, ?_⟩
  · rw [isSome_renderSpec_iff]
    constructor
    · rintro ⟨-, spec, hspec⟩
      obtain ⟨colors, hcolors, hdrawn, hall, hwritten⟩ :=
        (renderSpecOf_eq_ok_iff htemporal).mp hspec
      exact ⟨⟨colors, hcolors⟩, (ofRows_eq_ok hkind htemporal hdrawn).1,
        fun row hrow => (hcoerced row hrow).mp (hall row hrow), hwritten⟩
    · rintro ⟨⟨colors, hcolors⟩, hpresent, hcounted, hwritten⟩
      have hall := fun row hrow => (hcoerced row hrow).mpr (hcounted row hrow)
      obtain ⟨spec, hspec⟩ := exists_ofRows hkind htemporal colors hpresent hall
      exact ⟨hpresent.rows_ne_nil, spec,
        (renderSpecOf_eq_ok_iff htemporal).mpr ⟨colors, hcolors, hspec, hall, hwritten⟩⟩
  · intro row hrow hcounted
    rw [placed, Row.get_set_self]
    exact Cell.isShownAs_of_coerceTime hdates
      (Cell.coerceTime_eq_onAxis ((hcoerced row hrow).mpr hcounted))
  · intro spec hspec
    obtain ⟨colors, -, hdrawn, -⟩ := (renderSpecOf_eq_ok_iff htemporal).mp hspec
    exact (ofRows_eq_ok hkind htemporal hdrawn).2.2

-- A line over time.
def overTime : ChartConfiguration :=
  { default .quiet with mapping := ⟨"at", "v", none⟩, timeFormatting := some ⟨true, none⟩ }

def moments (cells : List Cell) : List Row :=
  cells.zipIdx.map fun (cell, place) => [("at", cell), ("v", .int place)]

-- Words, gaps and floats beyond all clocks stand beside dates and seconds.
def mixed : List Row :=
  moments [.int 1700000000, .text "soon", .null, .text "1e308", .float .nan,
    .text "2023-11-14 22:13:20"]

-- Words and not-a-number stand in the drawing as they are.
theorem isSome_renderSpec_mixed :
    (overTime.synthesize .quiet mixed (.text "dark")).renderSpec.isSome = true ∧
      ∃ spec, overTime.renderSpecOf .quiet mixed (.text "dark") = .ok spec ∧
        ∀ entry ∈ [Entry.point (.text "soon") (some (.int 1)),
            .point (.float .nan) (some (.int 4))],
          entry ∈ spec.plot.contents.flatMap Prod.snd := by
  have hcells : ∀ row ∈ mixed, (row.get overTime.mapping.x).IsStandard := by
    intro row hrow n hn
    have hfloats : ∀ row ∈ mixed, (row.get "at").plainNumber? ∈
        [some (.int 1700000000), none, some (.float .nan)] := by decide +kernel
    have hplain := hfloats row hrow
    rw [show (row.get "at").plainNumber? = some n from hn] at hplain
    simp only [List.mem_cons, Option.some.injEq, List.not_mem_nil, reduceCtorEq, or_false,
      false_or] at hplain
    rcases hplain with rfl | rfl
    · trivial
    · trivial
  have hcounted : ∀ row ∈ mixed,
      ¬ (row.get overTime.mapping.x).HasNoInstant Surroundings.quiet.dates := by
    intro row hrow
    rw [← Cell.exists_coerceTime_iff Surroundings.failsOnValues_quiet (hcells row hrow)]
    have hall : ∀ row ∈ mixed, ((row.get "at").coerceTime Surroundings.quiet.dates).toOption.any
        (fun _ => true) = true := by
      decide +kernel
    obtain ⟨shown, hshown, -⟩ := Fault.exists_ok_of_any _ _ (hall row hrow)
    exact ⟨shown, hshown⟩
  obtain ⟨hiff, -, hpoints⟩ := @isSome_renderSpec_iff_counted overTime mixed .quiet (.text "dark")
    Surroundings.failsOnValues_quiet (by decide) rfl hcells
  have hdrawn := hiff.mpr ⟨⟨.dark, rfl⟩, (RenderSpec.checkMapping_eq_ok_iff .line).mp rfl,
    hcounted, by decide +kernel⟩
  obtain ⟨-, spec, hspec⟩ := isSome_renderSpec_iff.mp hdrawn
  refine ⟨hdrawn, spec, hspec, ?_⟩
  have hentries : [Entry.point (.text "soon") (some (.int 1)),
        .point (.float .nan) (some (.int 4))] =
      [[("at", .text "soon"), ("v", .int 1)], [("at", .float .nan), ("v", .int 4)]].map
        fun row => overTime.mapping.plainPoint (overTime.placed Surroundings.quiet.dates row) := by
    with_unfolding_all rfl
  intro entry hentry
  rw [hentries] at hentry
  obtain ⟨row, hrow, rfl⟩ := List.mem_map.mp hentry
  rw [(hpoints spec hspec).mem_iff, List.map_map]
  apply List.mem_map_of_mem
  simp only [List.mem_cons, List.not_mem_nil, or_false] at hrow
  rcases hrow with rfl | rfl
  · simp [mixed, moments]
  · simp [mixed, moments]

-- One infinity among the times is enough for nothing to be drawn.
theorem no_drawing_of_infinity :
    Surroundings.quiet.dates.FailsOnValues ∧ overTime.kind = .line ∧ overTime.isTemporal = true ∧
      overTime.mapping.IsPresent (moments [.int 1700000000, .text "inf"]) ∧
      (overTime.synthesize .quiet (moments [.int 1700000000, .text "inf"])
        (.text "light")).renderSpec = none := by
  refine ⟨Surroundings.failsOnValues_quiet, rfl, rfl,
    (RenderSpec.checkMapping_eq_ok_iff .line).mp rfl, ?_⟩
  rw [← Option.not_isSome_iff_eq_none, isSome_renderSpec_iff]
  rintro ⟨-, spec, hspec⟩
  obtain ⟨-, -, -, hcoerced, -⟩ := (renderSpecOf_eq_ok_iff rfl).mp hspec
  obtain ⟨shown, hshown⟩ := hcoerced [("at", .text "inf"), ("v", .int 1)] (by simp [moments])
  have hfault : (Cell.text "inf").coerceTime Surroundings.quiet.dates =
      .error .infiniteToInteger := by
    with_unfolding_all rfl
  cases hfault.symm.trans hshown

end ChartConfiguration

end TimePanel
