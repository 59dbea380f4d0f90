import TimePanel.Proofs.Chart.Stability

/-! The chart that is chosen where only the fields of a result are known: which columns come onto
its axes, and whether it shows a measure. -/

namespace TimePanel

namespace Analysis

variable {settings : Settings} {dates : DateReader} {name : String} {values : List Cell}
variable {hint : Option ColumnDescriptor} {field : FieldInfo}

-- A column that is declared to hold numbers is a measure only if it holds something.
theorem role_of_isMeasurable (h : fieldOf settings dates name values hint = .ok field)
    (hmeasurable : field.isMeasurable = true) :
    field.role = .measure ↔ values.filter (!·.isNull) ≠ [] := by
  rcases fieldOf_eq_ok_iff.mp h with
    ⟨hempty, rfl⟩ | ⟨hvalues, kind, role, content, cardinality, -, hshown, -, rfl⟩
  · exact iff_of_false nofun (not_not_intro hempty)
  · have hkind : kind.semantic.isNumeric = true ∧ kind.isTime = false := by
      simpa [FieldInfo.isMeasurable] using hmeasurable
    simp only [shown, hkind.1, hkind.2, Bool.false_eq_true, if_false, if_true] at hshown
    cases hshown
    exact iff_of_true rfl hvalues

end Analysis

namespace ChartConfiguration

-- Whether a chart of some fields shows a measure against another column, as time if that holds
-- time.
structure IsUsable (fields : List FieldInfo) (config : ChartConfiguration) : Prop where
  apart : config.mapping.x ≠ config.mapping.y
  measure : ∃ field ∈ fields, field.name = config.mapping.y ∧ field.role = .measure
  formatted_iff : config.isTemporal = true ↔
    ∃ field ∈ fields, field.name = config.mapping.x ∧ field.isTime = true

-- How a field comes onto the x axis of a number: as the first time, as an earlier number, or as a
-- category. Without a time only.
inductive IsAxisOf (fields : List FieldInfo) (number axis : FieldInfo) : Prop
  | time (hfirst : fields.find? (·.isTime) = some axis)
  | number (hnone : ∀ field ∈ fields, field.isTime = false) (hpair : [axis, number].Sublist fields)
  | category (hnone : ∀ field ∈ fields, field.isTime = false)
      (hcategory : axis.content = .categorical)

variable {fields : List FieldInfo} {axis number : FieldInfo}

-- What is on the x axis comes from a field, and there is a number on the y axis then.
theorem exists_isAxisOf (hx : (chooseMapping fields).1.x ≠ "") : ∃ axis ∈ fields, ∃ number ∈ fields,
      number.isMeasurable = true ∧ IsAxisOf fields number axis ∧
        (chooseMapping fields).1.x = axis.name ∧ (chooseMapping fields).1.y = number.name := by
  have hnumber {number : FieldInfo} (hmem : number ∈ fields.filter (·.isMeasurable)) :
      number ∈ fields ∧ number.isMeasurable = true := List.mem_filter.mp hmem
  have hnone (htimes : fields.filter (·.isTime) = []) : ∀ field ∈ fields, field.isTime = false := by
    simpa using htimes
  match htimes : fields.filter (·.isTime), hnumbers : fields.filter (·.isMeasurable),
    hcategories : fields.filter (·.content = .categorical) with
  | time :: later, number :: rest, _ =>
      have hfirst : fields.find? (·.isTime) = some time := by
        rw [← List.head?_filter, htimes, List.head?_cons]
      obtain ⟨hmem, hmeasurable⟩ := hnumber (hnumbers ▸ List.mem_cons_self)
      refine ⟨time, List.mem_of_find?_eq_some hfirst, number, hmem, hmeasurable, .time hfirst, ?_⟩
      simp [chooseMapping, htimes, hnumbers]
  | [], first :: number :: rest, _ =>
      have hpair : [first, number].Sublist fields := by
        have hboth : [first, number].Sublist (first :: number :: rest) :=
          List.sublist_append_left [first, number] rest
        exact hboth.trans (hnumbers ▸ List.filter_sublist)
      obtain ⟨hmem, hmeasurable⟩ :=
        hnumber (hnumbers ▸ List.mem_cons_of_mem first List.mem_cons_self)
      refine ⟨first, hpair.subset (by simp), number, hmem, hmeasurable,
        .number (hnone htimes) hpair, ?_⟩
      simp [chooseMapping, htimes, hnumbers]
  | [], [number], category :: others =>
      obtain ⟨hcategory, hcontent⟩ : category ∈ fields ∧ category.content = .categorical := by
        have hmem : category ∈ fields.filter (·.content = .categorical) :=
          hcategories ▸ List.mem_cons_self
        simpa using List.mem_filter.mp hmem
      obtain ⟨hmem, hmeasurable⟩ := hnumber (hnumbers ▸ List.mem_cons_self)
      refine ⟨category, hcategory, number, hmem, hmeasurable, .category (hnone htimes) hcontent, ?_⟩
      simp [chooseMapping, htimes, hnumbers, hcategories]
  | [], [number], [] => simp [chooseMapping, htimes, hnumbers, hcategories] at hx
  | _, [], _ =>
      simp [chooseMapping, htimes, hnumbers, hcategories, FieldMapping.none] at hx

-- A number that is no category has another column on the x axis.
theorem IsAxisOf.name_ne (h : IsAxisOf fields number axis) (hnames : (fields.map (·.name)).Nodup)
    (haxis : axis ∈ fields) (hnumber : number ∈ fields) (hmeasurable : number.isMeasurable = true)
    (hcontent : number.content ≠ .categorical) : axis.name ≠ number.name := by
  have hsame (heq : axis.name = number.name) : axis = number :=
    List.inj_on_of_nodup_map hnames haxis hnumber heq
  cases h with
  | time hfirst =>
      intro heq
      obtain rfl := hsame heq
      have htime : axis.isTime = true := by simpa using List.find?_some hfirst
      simp [FieldInfo.isMeasurable, htime] at hmeasurable
  | number hnone hpair =>
      have hpairNames : [axis.name, number.name].Nodup :=
        hnames.sublist (List.Sublist.map FieldInfo.name hpair)
      simpa using hpairNames
  | category hnone hcategory =>
      intro heq
      obtain rfl := hsame heq
      exact hcontent hcategory

-- The x axis shows time exactly if a time is on it.
theorem IsAxisOf.isTemporal_iff (h : IsAxisOf fields number axis) (haxis : axis ∈ fields)
    (hx : (chooseMapping fields).1.x = axis.name) (env : Surroundings) :
    (ofFieldInfos env fields).isTemporal = true ↔
      ∃ field ∈ fields, field.name = axis.name ∧ field.isTime = true := by
  have hnever (hnone : ∀ field ∈ fields, field.isTime = false) :
      (ofFieldInfos env fields).isTemporal = true ↔
        ∃ field ∈ fields, field.name = axis.name ∧ field.isTime = true := by
    have hfirst : fields.find? (·.isTime) = none := by simpa using hnone
    refine iff_of_false ?_ ?_
    · simp [ofFieldInfos, isTemporal, chooseFormatting, hfirst]
    · rintro ⟨field, hmem, -, htime⟩
      exact Bool.false_ne_true ((hnone field hmem).symm.trans htime)
  cases h with
  | time hfirst =>
      have htime : axis.isTime = true := by simpa using List.find?_some hfirst
      refine iff_of_true ?_ ⟨axis, haxis, rfl, htime⟩
      simp [ofFieldInfos, isTemporal, chooseFormatting, hfirst, hx]
  | number hnone _ => exact hnever hnone
  | category hnone _ => exact hnever hnone

variable {settings : Settings} {dates : DateReader} {rows : List Row}
variable {hints : List ColumnDescriptor} {found : List FieldInfo}

-- Whenever there is something on the x axis of the chart that is chosen for the fields of some
-- rows, it is of use exactly if the column on its y axis holds something. A column without values
-- is no measure, and may stand on both axes. Time is shown where there is one in any case.
theorem isUsable_ofFieldInfos_iff (env : Surroundings)
    (h : Analysis.fields settings dates rows hints = .ok found)
    (hx : (ofFieldInfos env found).mapping.x ≠ "") :
    ((ofFieldInfos env found).IsUsable found ↔
        ∃ row ∈ rows, (row.get (ofFieldInfos env found).mapping.y).isNull = false) ∧
      ((ofFieldInfos env found).isTemporal = true ↔ ∃ field ∈ found,
        field.name = (ofFieldInfos env found).mapping.x ∧ field.isTime = true) := by
  obtain ⟨axis, haxis, number, hnumber, hmeasurable, hchosen, hxName, hyName⟩ :=
    exists_isAxisOf hx
  have hnames : (found.map (·.name)).Nodup :=
    Analysis.map_name_fields h ▸ (isFirstSeen_distinct _).nodup
  have htemporal := hchosen.isTemporal_iff haxis hxName env
  have hfield := ((Analysis.mem_fields_iff h).mp hnumber).2
  have hrole : number.role = .measure ↔ ∃ row ∈ rows, (row.get number.name).isNull = false := by
    rw [Analysis.role_of_isMeasurable hfield hmeasurable]
    simp
  have hx' : (ofFieldInfos env found).mapping.x = axis.name := hxName
  have hy' : (ofFieldInfos env found).mapping.y = number.name := hyName
  rw [hx', hy', ← hrole]
  refine ⟨⟨?_, fun hmeasure => ⟨?_, ?_, ?_⟩⟩, htemporal⟩
  · rintro ⟨-, ⟨other, hother, hname, hmeasure⟩, -⟩
    rwa [List.inj_on_of_nodup_map hnames hother hnumber (hname.trans hy')] at hmeasure
  · have hcontent := (Analysis.isCoherent_fieldOf hfield).measure_iff.mp hmeasure
    rw [hx', hy']
    exact hchosen.name_ne hnames haxis hnumber hmeasurable (by simp [hcontent])
  · exact ⟨number, hnumber, hy'.symm, hmeasure⟩
  · rwa [hx']

-- Two declared columns, of which only the second one holds anything.
def halfFilled : List Row := [[("a", .null), ("b", .int 1)]]

def declaredNumber (name : String) : ColumnDescriptor := ⟨name, "int", none, none⟩

theorem isUsable_ofFieldInfos_halfFilled : ∃ found,
    Analysis.fields Surroundings.quiet.settings Surroundings.quiet.dates halfFilled
        [declaredNumber "a", declaredNumber "b"] = .ok found ∧
      (ofFieldInfos Surroundings.quiet found).mapping = ⟨"a", "b", none⟩ ∧
      (ofFieldInfos Surroundings.quiet found).IsUsable found := by
  have hfound : Analysis.fields Surroundings.quiet.settings Surroundings.quiet.dates halfFilled
      [declaredNumber "a", declaredNumber "b"] =
        .ok [⟨"a", .integer, .dimension, .categorical, false, none, 0, some "int"⟩,
          ⟨"b", .integer, .measure, .numeric, false, none, 1, some "int"⟩] := by
    decide +kernel
  obtain ⟨husable, -⟩ := isUsable_ofFieldInfos_iff Surroundings.quiet hfound (by decide)
  exact ⟨_, hfound, rfl, husable.mpr ⟨_, List.mem_cons_self, rfl⟩⟩

-- A lone column that is declared to hold numbers but holds none is a number and a category. It is
-- put on both axes, though it is no measure.
theorem not_isUsable_emptyColumn : ∃ found,
    Analysis.fields Surroundings.quiet.settings Surroundings.quiet.dates [[("v", .null)]]
        [declaredNumber "v"] = .ok found ∧
      (ofFieldInfos Surroundings.quiet found).mapping = ⟨"v", "v", none⟩ ∧
      (∀ field ∈ found, field.role = .dimension) ∧
      ¬ (ofFieldInfos Surroundings.quiet found).IsUsable found := by
  have hfound : Analysis.fields Surroundings.quiet.settings Surroundings.quiet.dates
      [[("v", .null)]] [declaredNumber "v"] =
        .ok [⟨"v", .integer, .dimension, .categorical, false, none, 0, some "int"⟩] := by
    decide +kernel
  exact ⟨_, hfound, rfl, by simp, fun husable => husable.apart rfl⟩

end ChartConfiguration

end TimePanel
