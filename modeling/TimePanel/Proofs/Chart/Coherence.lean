import TimePanel.Proofs.Chart.Analysis
import TimePanel.Proofs.Chart.Categories

/-! What the fields of an analysis have in common, whatever the data and the schema say: how a field
is shown, what it holds and its unit never contradict one another. -/

namespace TimePanel

open Fault

-- A kind with a unit is one of time.
def Classification.IsCoherent (kind : Classification) : Prop :=
  kind.unit.isSome = true → kind.isTime = true

-- What is said of a field agrees with the rest that is.
structure FieldInfo.IsCoherent (field : FieldInfo) : Prop where
  temporal_iff : field.isTime = true ↔ field.content = .temporal
  measure_iff : field.role = .measure ↔ field.content = .numeric
  measurable : field.role = .measure → field.isMeasurable = true
  unit_of_time : field.unit.isSome = true → field.isTime = true

namespace Analysis

variable {settings : Settings} {dates : DateReader} {name : String} {cells values : List Cell}
variable {numbers : List Number} {hint : Option ColumnDescriptor} {field : FieldInfo}

-- A declared unit stands, whatever the numbers look like.
theorem unit_of_classifyDeclared {column : ColumnDescriptor} {kind : Classification}
    (h : classifyDeclared column numbers = .ok kind) :
    kind.IsCoherent ∧
      ∀ unit, column.unit = some unit → kind.isTime = true ∧ kind.unit = some unit := by
  unfold classifyDeclared at h
  dsimp only at h
  split at h
  · obtain ⟨inferred, -, h⟩ := bind_eq_ok_iff.mp h
    cases inferred with
    | none =>
        obtain rfl := pure_eq_ok_iff.mp h
        exact ⟨id, fun unit hunit => ⟨by simp [hunit], hunit⟩⟩
    | some inferred =>
        obtain rfl := pure_eq_ok_iff.mp h
        exact ⟨fun _ => rfl, fun unit hunit => ⟨rfl, by simp [hunit]⟩⟩
  · obtain rfl := pure_eq_ok_iff.mp h
    refine ⟨fun hunit => ?_, fun unit hunit => ⟨by simp [hunit], hunit⟩⟩
    simp only [hunit, Bool.true_or]

-- Where nothing is declared, a unit comes from numbers that count time.
theorem isCoherent_of_classifyUndeclared {kind : Classification}
    (h : classifyUndeclared settings dates name cells = .ok kind) : kind.IsCoherent := by
  unfold classifyUndeclared at h
  dsimp only at h
  split at h
  · obtain ⟨fraction, -, h⟩ := bind_eq_ok_iff.mp h
    dsimp only at h
    generalize (if fraction = true then SemanticType.float else .integer) = semantic at h
    split at h
    · obtain ⟨unit, -, h⟩ := bind_eq_ok_iff.mp h
      obtain rfl := pure_eq_ok_iff.mp h
      exact fun _ => rfl
    · obtain rfl := pure_eq_ok_iff.mp h
      exact nofun
  · split at h
    · obtain rfl := pure_eq_ok_iff.mp h
      exact nofun
    · obtain ⟨mostly, -, h⟩ := bind_eq_ok_iff.mp h
      split at h
      · obtain rfl := pure_eq_ok_iff.mp h
        exact fun _ => rfl
      · obtain rfl := pure_eq_ok_iff.mp h
        exact nofun

-- The kind of a column, told from a sample of its cells.
def kindOf (settings : Settings) (dates : DateReader) (name : String) (cells : List Cell) :
    Option ColumnDescriptor → Except Fault Classification
  | some column => classifyDeclared column (cells.filterMap Cell.number?)
  | none => classifyUndeclared settings dates name cells

theorem kindOf_coherent {kind : Classification}
    (h : kindOf settings dates name cells hint = .ok kind) :
    kind.IsCoherent ∧ ∀ column ∈ hint, ∀ unit, column.unit = some unit →
      kind.isTime = true ∧ kind.unit = some unit := by
  cases hint with
  | none => exact ⟨isCoherent_of_classifyUndeclared h, nofun⟩
  | some column =>
      obtain ⟨hkind, hunit⟩ := unit_of_classifyDeclared h
      refine ⟨hkind, ?_⟩
      rintro _ ⟨⟩
      exact hunit

-- What the analysis of a column is made of. A column without values is not looked at.
theorem fieldOf_eq_ok_iff :
    fieldOf settings dates name values hint = .ok field ↔
      let present := values.filter (!·.isNull)
      let cells := sample settings.sampleSize present
      present = [] ∧ emptyField name hint = field ∨
      present ≠ [] ∧ ∃ kind role content cardinality,
        kindOf settings dates name cells hint = .ok kind ∧
        shown kind cells = .ok (role, content) ∧ Cell.countDistinct present = .ok cardinality ∧
        field = { name, semantic := kind.semantic, role, content, isTime := kind.isTime,
                  unit := kind.unit, cardinality, declaredType := hint.map (·.dataType) } := by
  unfold fieldOf
  dsimp only
  generalize values.filter (!·.isNull) = present
  split
  · next hempty => simp [List.isEmpty_iff.mp hempty, pure_eq_ok_iff]
  · next hne =>
    have hne : present ≠ [] := by simpa using hne
    have hempty : ¬ (present = [] ∧ emptyField name hint = field) := fun h => hne h.1
    rw [or_iff_right hempty, and_iff_right hne]
    cases hint with
    | none =>
        simp only [kindOf, bind_eq_ok_iff, pure_eq_ok_iff, Prod.exists, exists_and_left,
          eq_comm (a := field)]
    | some column =>
        simp only [kindOf, bind_eq_ok_iff, pure_eq_ok_iff, Prod.exists, exists_and_left,
          eq_comm (a := field)]

theorem isCoherent_emptyField (name : String) (hint : Option ColumnDescriptor) :
    (emptyField name hint).IsCoherent := by
  unfold emptyField
  refine ⟨?_, ?_, nofun, ?_⟩
  · dsimp only
    split
    · next htime => simp [htime]
    · next htime => simp [htime]
  · dsimp only
    split
    · exact ⟨nofun, nofun⟩
    · exact ⟨nofun, nofun⟩
  · cases hint with
    | none => exact nofun
    | some column =>
        intro hunit
        simp only [Option.bind_some] at hunit
        simp [hunit]

-- How a column is shown follows from its kind.
theorem of_shown {kind : Classification} {role : FieldRole} {content : ContentType}
    (h : shown kind cells = .ok (role, content)) :
    (kind.isTime = true ↔ content = .temporal) ∧ (role = .measure ↔ content = .numeric) ∧
      (role = .measure → kind.semantic.isNumeric = true ∧ kind.isTime = false) := by
  unfold shown at h
  split at h
  · next htime =>
    cases h
    simp [htime]
  · next htime =>
    split at h
    · next hnumeric =>
      cases h
      simp [htime, hnumeric]
    · obtain ⟨count, -, h⟩ := bind_eq_ok_iff.mp h
      split at h
      · cases h
        simp [htime]
      · cases h
        simp [htime]

theorem isCoherent_fieldOf (h : fieldOf settings dates name values hint = .ok field) :
    field.IsCoherent := by
  rcases fieldOf_eq_ok_iff.mp h with
    ⟨-, rfl⟩ | ⟨-, kind, role, content, cardinality, hkind, hshown, -, rfl⟩
  · exact isCoherent_emptyField name hint
  · obtain ⟨htemporal, hmeasure, hmeasurable⟩ := of_shown hshown
    refine ⟨htemporal, hmeasure, fun hrole => ?_, (kindOf_coherent hkind).1⟩
    obtain ⟨hnumeric, htime⟩ := hmeasurable hrole
    simp [FieldInfo.isMeasurable, hnumeric, htime]

theorem name_fieldOf (h : fieldOf settings dates name values hint = .ok field) :
    field.name = name := by
  rcases fieldOf_eq_ok_iff.mp h with ⟨-, rfl⟩ | ⟨-, kind, role, content, cardinality, -, -, -, rfl⟩
  · rfl
  · rfl

theorem unit_fieldOf {column : ColumnDescriptor} {unit : TimeUnit} (hunit : column.unit = some unit)
    (h : fieldOf settings dates name values (some column) = .ok field) :
    field.isTime = true ∧ field.unit = some unit := by
  rcases fieldOf_eq_ok_iff.mp h with
    ⟨-, rfl⟩ | ⟨-, kind, role, content, cardinality, hkind, -, -, rfl⟩
  · simp [emptyField, hunit]
  · exact (kindOf_coherent hkind).2 column rfl unit hunit

variable {rows : List Row} {hints before after : List ColumnDescriptor} {found : List FieldInfo}

-- The last declaration of a column counts.
theorem hint?_eq_some {declared : ColumnDescriptor}
    (hlast : ∀ later ∈ after, later.name ≠ declared.name) :
    hint? (before ++ declared :: after) declared.name = some declared := by
  have hnone : after.reverse.find? (·.name = declared.name) = none := by
    simpa using hlast
  simp [hint?, List.find?_append, hnone]

theorem map_name_fields (h : fields settings dates rows hints = .ok found) :
    found.map (·.name) = columnNames rows := by
  have hnames := (forall₂_of_mapM h).imp fun name field hfield => (name_fieldOf hfield).symm
  rw [← List.forall₂_map_right_iff] at hnames
  exact (List.forall₂_eq_eq_eq ▸ hnames).symm

-- A field is among them exactly if it is that of its column.
theorem mem_fields_iff (h : fields settings dates rows hints = .ok found) :
    field ∈ found ↔ field.name ∈ columnNames rows ∧
      fieldOf settings dates field.name (rows.map (·.get field.name)) (hint? hints field.name) =
        .ok field := by
  rw [mem_iff_of_mapM h]
  constructor
  · rintro ⟨name, hname, hfield⟩
    obtain rfl := name_fieldOf hfield
    exact ⟨hname, hfield⟩
  · rintro ⟨hname, hfield⟩
    exact ⟨field.name, hname, hfield⟩

-- The fields are those of the keys of the rows, each once, as they come up. None contradicts
-- itself, and a column has the unit that its last declaration gives to it.
theorem fields_coherent (h : fields settings dates rows hints = .ok found) :
    IsFirstSeen (rows.flatMap fun row => row.map (·.1)) (found.map (·.name)) ∧
      ∀ field ∈ found, field.IsCoherent ∧
        ∀ before declared after, hints = before ++ declared :: after →
          declared.name = field.name → (∀ later ∈ after, later.name ≠ field.name) →
          ∀ unit, declared.unit = some unit → field.isTime = true ∧ field.unit = some unit := by
  constructor
  · rw [map_name_fields h]
    exact isFirstSeen_distinct _
  · intro field hmem
    obtain ⟨-, hfield⟩ := (mem_fields_iff h).mp hmem
    refine ⟨isCoherent_fieldOf hfield, ?_⟩
    rintro before declared after rfl hname hlast unit hunit
    rw [← hname] at hfield hlast
    rw [hint?_eq_some hlast] at hfield
    exact unit_fieldOf hunit hfield

-- Two declarations of the first column of a table.
def declaredTwice : List ColumnDescriptor :=
  [⟨"at", "text", some .milliseconds, none⟩, ⟨"at", "bigint", some .seconds, none⟩]

def measured : List Row :=
  [[("at", .text "noon"), ("v", .int 3)], [("v", .int 4), ("note", .text "x")]]

theorem fields_measured :
    fields Surroundings.quiet.settings Surroundings.quiet.dates measured declaredTwice =
      .ok [⟨"at", .bigint, .dimension, .temporal, true, some .seconds, 1, some "bigint"⟩,
        ⟨"v", .integer, .measure, .numeric, false, none, 2, none⟩,
        ⟨"note", .string, .dimension, .text, false, none, 1, none⟩] := by
  decide +kernel

-- The second one counts, though no number bears it out.
theorem fields_coherent_measured : ∃ found,
    fields Surroundings.quiet.settings Surroundings.quiet.dates measured declaredTwice = .ok found ∧
      IsFirstSeen (measured.flatMap fun row => row.map (·.1)) (found.map (·.name)) ∧
      ∃ field ∈ found, field.name = "at" ∧ field.IsCoherent ∧ field.isTime = true ∧
        field.unit = some .seconds := by
  obtain ⟨hnames, hfields⟩ := fields_coherent fields_measured
  refine ⟨_, fields_measured, hnames, _, List.mem_cons_self, rfl, ?_⟩
  obtain ⟨hcoherent, hunit⟩ := hfields _ List.mem_cons_self
  exact ⟨hcoherent, hunit [⟨"at", "text", some .milliseconds, none⟩]
    ⟨"at", "bigint", some .seconds, none⟩ [] rfl rfl nofun .seconds rfl⟩

end Analysis

end TimePanel
