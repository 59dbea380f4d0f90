import TimePanel.Chart.Synthesis
import TimePanel.Proofs.Json.RoundTrip

/-! Saved configurations lose nothing but their drawing. -/

namespace TimePanel

-- What is relied on in a format, where `Json.read` gives the grammar of JSON: fields that are not
-- deeply nested are written as JSON for them, JSON is read as what it stands for, and a value of
-- the declared type passes its check unchanged.
structure RecordFormat.IsFaithful (format : RecordFormat) : Prop where
  writes (fields : List (String × Cell)) : Json.fieldsPlain fields = true →
    Json.fieldsNesting fields ≤ 1 → Json.read .strict (format.write fields) = .ok (.object fields)
  reads (text : String) (cell : Cell) : Json.isPlain cell = true →
    Json.read .strict text = .ok cell → format.read? text = some cell
  text (s : String) : format.text (.text s) = .valid s
  boolean (b : Bool) : format.boolean (.bool b) = .valid b
  choice (allowed : List String) (place : Fin allowed.length) : allowed.Nodup →
    format.choice allowed (.text allowed[place]) = .valid place

theorem RecordFormat.isFaithful_json : RecordFormat.json.IsFaithful where
  writes fields hplain hnesting := by
    have hdepth : Json.nesting (.object fields) ≤ Json.Dialect.strict.maxDepth := by
      simp only [Json.nesting, Json.Dialect.strict]
      omega
    exact Json.read_render (.indented 2) hplain hdepth
  reads text cell _ hread := by
    have htext : RecordFormat.json.read? text = (Json.read .strict text).toOption := rfl
    rw [htext, hread]
    rfl
  text _ := rfl
  boolean _ := rfl
  choice allowed place hnodup := by
    have hplace : allowed.finIdxOf? allowed[place] = some place := by
      refine List.finIdxOf?_eq_some_iff.mpr ⟨rfl, fun earlier hearlier heq => ?_⟩
      exact Nat.ne_of_lt hearlier ((List.getElem_inj hnodup).mp heq)
    simp only [RecordFormat.json, Schema.choice, hplace]
    rfl

namespace ChartConfiguration

open Schema

-- The fields as they are handed to the format, where units stand by name.
abbrev writtenFormatting (formatting : TimeFormatting) : Cell :=
  .object (formatting.fieldsWith fun unit => .text unit.name)

abbrev writtenFields (config : ChartConfiguration) : List (String × Cell) :=
  config.savedFields fun unit => .text unit.name

section Plain

theorem plain_mapping (mapping : FieldMapping) :
    Json.fieldsPlain mapping.fields = true ∧ Json.fieldsNesting mapping.fields = 0 := by
  obtain ⟨x, y, group⟩ := mapping
  cases group <;>
    simp [FieldMapping.fields, Json.isPlain, Json.fieldsPlain, Json.nesting, Json.fieldsNesting]

theorem plain_styling (styling : Styling) :
    Json.fieldsPlain styling.fields = true ∧ Json.fieldsNesting styling.fields = 0 := by
  obtain ⟨legend, grid, smooth, stack⟩ := styling
  cases smooth <;> cases stack <;>
    simp [Styling.fields, Json.isPlain, Json.fieldsPlain, Json.nesting, Json.fieldsNesting]

theorem plain_formatting (formatting : Option TimeFormatting) :
    Json.isPlain (formatting.elim .null writtenFormatting) = true ∧
      Json.nesting (formatting.elim .null writtenFormatting) ≤ 1 := by
  cases formatting with
  | none => exact ⟨rfl, Nat.zero_le 1⟩
  | some formatting =>
      obtain ⟨enabled, unit⟩ := formatting
      cases unit <;>
        simp [TimeFormatting.fieldsWith, Json.isPlain, Json.fieldsPlain, Json.nesting,
          Json.fieldsNesting]

theorem plain_writtenFields (config : ChartConfiguration) :
    Json.fieldsPlain config.writtenFields = true ∧
      Json.fieldsNesting config.writtenFields ≤ 1 := by
  have hmapping := plain_mapping config.mapping
  have hstyling := plain_styling config.styling
  have hformatting := plain_formatting config.timeFormatting
  constructor
  · simp [savedFields, Json.isPlain, Json.fieldsPlain, hmapping, hstyling, hformatting]
  · simp [savedFields, Json.nesting, Json.fieldsNesting, hmapping, hstyling, hformatting]

end Plain

section Parts

theorem fieldOr_of_find {α : Type} {default found : α} {spellings : List String}
    {check : Cell → Checked α} {fields : List (String × Cell)} {name : String} {value : Cell}
    (hfound : find? spellings fields = some (name, value)) (hvalue : check value = .valid found) :
    fieldOr default spellings check fields = .valid found := by
  simp [fieldOr, hfound, hvalue, Checked.within]

theorem optional_elim {α : Type} {check : Cell → Checked α} {cell : α → Cell}
    (hcheck : ∀ a, check (cell a) = .valid a) (hcell : ∀ a, cell a ≠ .null) (value : Option α) :
    Schema.optional check (value.elim .null cell) = .valid value := by
  cases value with
  | none => rfl
  | some value => simp [Schema.optional, hcheck, hcell, Checked.map]

variable {format : RecordFormat} (hformat : format.IsFaithful)
include hformat

-- Each part is read back from its fields.
theorem kind_ofCell (kind : ChartKind) :
    ChartKind.ofCell format (.text kind.name) = .valid kind := by
  have hchoice (place : Fin 3) := congrArg (Checked.map fun place => ChartKind.all[place])
    (hformat.choice (ChartKind.all.map ChartKind.name) place (by decide))
  cases kind with
  | line => exact hchoice 0
  | bar => exact hchoice 1
  | area => exact hchoice 2

theorem mapping_ofCell (origin : Origin) (mapping : FieldMapping) :
    FieldMapping.ofCell format origin (.object mapping.fields) = .valid mapping := by
  have hx : fieldOr FieldMapping.none.x ["xAxis", "x_axis"] format.text mapping.fields =
      .valid mapping.x := fieldOr_of_find rfl (hformat.text _)
  have hy : fieldOr FieldMapping.none.y ["yAxis", "y_axis"] format.text mapping.fields =
      .valid mapping.y := fieldOr_of_find rfl (hformat.text _)
  have hgroup : fieldOr FieldMapping.none.group ["groupBy", "group_by"] (optional format.text)
      mapping.fields = .valid mapping.group :=
    fieldOr_of_find rfl (optional_elim hformat.text (fun _ => nofun) _)
  simp only [FieldMapping.ofCell, fieldsOf, Checked.bind, FieldMapping.ofFields, hx, hy, hgroup,
    Checked.apply]

theorem styling_ofCell (origin : Origin) (styling : Styling) :
    Styling.ofCell format origin (.object styling.fields) = .valid styling := by
  have hlegend : fieldOr Styling.default.showLegend ["showLegend", "show_legend"] format.boolean
      styling.fields = .valid styling.showLegend := fieldOr_of_find rfl (hformat.boolean _)
  have hgrid : fieldOr Styling.default.showGrid ["showGrid", "show_grid"] format.boolean
      styling.fields = .valid styling.showGrid := fieldOr_of_find rfl (hformat.boolean _)
  have hsmooth : fieldOr Styling.default.smooth ["smooth"] (optional format.boolean)
      styling.fields = .valid styling.smooth :=
    fieldOr_of_find rfl (optional_elim hformat.boolean (fun _ => nofun) _)
  have hstack : fieldOr Styling.default.stack ["stack"] (optional format.boolean)
      styling.fields = .valid styling.stack :=
    fieldOr_of_find rfl (optional_elim hformat.boolean (fun _ => nofun) _)
  simp only [Styling.ofCell, fieldsOf, Checked.bind, Styling.ofFields, hlegend, hgrid, hsmooth,
    hstack, Checked.apply]

theorem formatting_ofCell (origin : Origin) (formatting : TimeFormatting) :
    TimeFormatting.ofCell format origin (writtenFormatting formatting) = .valid formatting := by
  obtain ⟨enabled, unit⟩ := formatting
  have hunit : timeUnit (unit.elim .null fun unit => .text unit.name) = .valid unit := by
    cases unit with
    | none => rfl
    | some unit => cases unit <;> rfl
  have henabled : fieldOr false ["enabled"] format.boolean
      (TimeFormatting.fieldsWith (fun unit => .text unit.name) ⟨enabled, unit⟩) =
        .valid enabled := fieldOr_of_find rfl (hformat.boolean _)
  have hsource : fieldOr none ["sourceTimeUnit", "source_time_unit"] timeUnit
      (TimeFormatting.fieldsWith (fun unit => .text unit.name) ⟨enabled, unit⟩) =
        .valid unit := fieldOr_of_find rfl hunit
  simp only [TimeFormatting.ofCell, fieldsOf, Checked.bind, TimeFormatting.ofFields, henabled,
    hsource, Checked.apply]

end Parts

section Whole

variable {env : Surroundings} (hformat : env.format.IsFaithful)
include hformat

theorem ofFields_writtenFields (origin : Origin) (config : ChartConfiguration) :
    ofFields env origin config.writtenFields = .valid { config with renderSpec := none } := by
  have hid : fieldOr (default env).id ["id"] env.format.text config.writtenFields =
      .valid config.id := fieldOr_of_find rfl (hformat.text _)
  have htitle : fieldOr (default env).title ["title"] env.format.text config.writtenFields =
      .valid config.title := fieldOr_of_find rfl (hformat.text _)
  have hkind : fieldOr (default env).kind ["chartKind", "chart_kind"]
      (ChartKind.ofCell env.format) config.writtenFields = .valid config.kind :=
    fieldOr_of_find rfl (kind_ofCell hformat _)
  have hmapping : fieldOr (default env).mapping ["fieldMapping", "field_mapping"]
      (FieldMapping.ofCell env.format origin) config.writtenFields = .valid config.mapping :=
    fieldOr_of_find rfl (mapping_ofCell hformat origin _)
  have hstyling : fieldOr (default env).styling ["styling"] (Styling.ofCell env.format origin)
      config.writtenFields = .valid config.styling :=
    fieldOr_of_find rfl (styling_ofCell hformat origin _)
  have hformatting : fieldOr (default env).timeFormatting ["timeFormatting", "time_formatting"]
      (optional (TimeFormatting.ofCell env.format origin)) config.writtenFields =
        .valid config.timeFormatting :=
    fieldOr_of_find rfl (optional_elim (formatting_ofCell hformat origin) (fun _ => nofun) _)
  have hspec : fieldOr (default env).renderSpec ["renderSpec", "render_spec"] (optional anyObject)
      config.writtenFields = .valid none := rfl
  have hcreated : fieldOr (default env).createdAt ["createdAt", "created_at"] env.format.text
      config.writtenFields = .valid config.createdAt := fieldOr_of_find rfl (hformat.text _)
  have hupdated : fieldOr (default env).updatedAt ["updatedAt", "updated_at"] env.format.text
      config.writtenFields = .valid config.updatedAt := fieldOr_of_find rfl (hformat.text _)
  simp only [ofFields, hid, htitle, hkind, hmapping, hstyling, hformatting, hspec, hcreated,
    hupdated, Checked.apply]

theorem restore?_save_eq (config : ChartConfiguration) :
    restore? env (config.save env) = some { config with renderSpec := none } := by
  obtain ⟨hplain, hnesting⟩ := plain_writtenFields config
  have hread : env.format.read? (config.save env) = some (.object config.writtenFields) :=
    hformat.reads _ _ hplain (hformat.writes _ hplain hnesting)
  rw [restore?, hread, Option.bind_some, ofCell, fieldsOf, Checked.bind,
    ofFields_writtenFields hformat]
  rfl

end Whole

-- A drawing is made from what is saved alone.
theorem renderSpecOf_without_spec (env : Surroundings) (rows : List Row)
    (config : ChartConfiguration) (theme : Cell) :
    renderSpecOf env rows { config with renderSpec := none } theme =
      renderSpecOf env rows config theme := rfl

theorem synthesize_without_spec (env : Surroundings) (rows : List Row)
    (config : ChartConfiguration) (theme : Cell) :
    synthesize env rows { config with renderSpec := none } theme =
      synthesize env rows config theme := by
  unfold synthesize
  rw [renderSpecOf_without_spec]

-- Restoring a saved configuration gives it back without its drawing. Importing it is therefore
-- drawing it, and after an import without rows it is saved as the same text.
theorem import_save (env : Surroundings) (hformat : env.format.IsFaithful)
    (config : ChartConfiguration) (rows : List Row) (theme : Cell) :
    restore? env (config.save env) = some { config with renderSpec := none } ∧
      importText? env (config.save env) rows theme = some (config.synthesize env rows theme) ∧
      (importText? env (config.save env) [] theme).map (save env) = some (config.save env) := by
  have hrestore := restore?_save_eq hformat config
  have himport (rows : List Row) : importText? env (config.save env) rows theme =
      some (config.synthesize env rows theme) := by
    rw [importText?, hrestore, Option.map_some, synthesize_without_spec]
  refine ⟨hrestore, himport rows, ?_⟩
  rw [himport []]
  rfl

-- An area with quotes, a line break and letters beyond ASCII in its names, and with a drawing that
-- is out of date.
def rainfall : ChartConfiguration :=
  { id := "chart_7", title := "Pluie \"brute\"\nété \\ hiver", kind := .area,
    mapping := ⟨"ts", "mm/m²", some "poste"⟩, styling := ⟨true, false, some true, none⟩,
    timeFormatting := some ⟨true, some .milliseconds⟩,
    renderSpec := some [("height", .int 300)], createdAt := "2024-03-12T08:00:00+00:00",
    updatedAt := "2024-03-13T08:00:00+00:00" }

def rainfallText : String :=
  "\x7b
  \"id\": \"chart_7\",
  \"title\": \"Pluie \\\"brute\\\"\\nété \\\\ hiver\",
  \"chartKind\": \"area\",
  \"fieldMapping\": \x7b
    \"xAxis\": \"ts\",
    \"yAxis\": \"mm/m²\",
    \"groupBy\": \"poste\"
  \x7d,
  \"styling\": \x7b
    \"showLegend\": true,
    \"showGrid\": false,
    \"smooth\": true,
    \"stack\": null
  \x7d,
  \"timeFormatting\": \x7b
    \"enabled\": true,
    \"sourceTimeUnit\": \"milliseconds\"
  \x7d,
  \"createdAt\": \"2024-03-12T08:00:00+00:00\",
  \"updatedAt\": \"2024-03-13T08:00:00+00:00\"\n\x7d"

def rainfallRows : List Row :=
  [[("ts", .int 1700000000000), ("mm/m²", .int 4), ("poste", .text "a")],
   [("ts", .int 1700000060000), ("mm/m²", .int 1), ("poste", .text "b")]]

-- The text is long, character by character.
set_option maxRecDepth 4000 in
theorem save_rainfall {env : Surroundings} (henv : env.format = .json) :
    rainfall.save env = rainfallText := by
  rw [save, henv]
  rfl

theorem import_save_rainfall :
    ∃ env : Surroundings, env.format = .json ∧ env.format.IsFaithful ∧
      rainfall.save env = rainfallText ∧
      restore? env rainfallText = some { rainfall with renderSpec := none } ∧
      importText? env rainfallText rainfallRows .null =
        some (rainfall.synthesize env rainfallRows .null) ∧
      (importText? env rainfallText [] .null).map (save env) = some rainfallText := by
  let env : Surroundings := .atClock .default ⟨1710344730000000000⟩ "chart_00000000"
  have hformat : env.format.IsFaithful := RecordFormat.isFaithful_json
  have htext := @save_rainfall env rfl
  obtain ⟨hrestore, himport, hagain⟩ := import_save env hformat rainfall rainfallRows .null
  rw [htext] at hrestore himport hagain
  exact ⟨env, rfl, hformat, htext, hrestore, himport, hagain⟩

end ChartConfiguration

end TimePanel
