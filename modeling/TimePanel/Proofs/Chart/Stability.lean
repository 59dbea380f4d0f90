import TimePanel.Proofs.Chart.Coherence

/-! What the field of a column depends on: the values of that column alone, and but for their number
only the first of them. Where no floats are involved their order makes no difference either. -/

namespace TimePanel

open Fault

namespace Fault

variable {α β : Type} {f : α → Except Fault β} {items others : List α} {results more : List β}

theorem map_toOption_of_mapM (h : items.mapM f = .ok results) :
    items.map (fun a => (f a).toOption) = results.map some := by
  rw [← List.forall₂_eq_eq_eq, List.forall₂_map_left_iff, List.forall₂_map_right_iff]
  exact (forall₂_of_mapM h).imp fun a b hab => by rw [hab, Except.toOption]

-- A computation over a list in another order has the same results in another order.
theorem perm_of_mapM (hperm : items.Perm others) (h : items.mapM f = .ok results)
    (hothers : others.mapM f = .ok more) : results.Perm more := by
  rw [← List.map_perm_map_iff (Option.some_injective β), ← map_toOption_of_mapM h,
    ← map_toOption_of_mapM hothers]
  exact hperm.map _

end Fault

theorem length_distinct_of_perm {α : Type} [BEq α] [LawfulBEq α] {items others : List α}
    (h : items.Perm others) : (distinct items).length = (distinct others).length := by
  refine List.Perm.length_eq ?_
  rw [List.perm_ext_iff_of_nodup (nodup_distinct items) (nodup_distinct others)]
  intro a
  rw [mem_distinct, mem_distinct, h.mem_iff]

-- Whether all of some numbers are whole ones.
def Number.AreWhole (numbers : List Number) : Prop := ∀ n ∈ numbers, ∃ value, n = .int value

theorem Number.AreWhole.exists_values {numbers : List Number} (h : AreWhole numbers) :
    ∃ values : List Int, numbers = values.map .int := by
  rcases eq_wholes_or numbers with hvalues | ⟨values, x, rest, rfl⟩
  · exact hvalues
  · obtain ⟨value, hvalue⟩ := h (.float x) (by simp)
    cases hvalue

-- The mean of whole numbers is that of their exact sum.
theorem Epoch.unitOfAll_perm {numbers others : List Number} (hwhole : Number.AreWhole numbers)
    (hperm : numbers.Perm others) : unitOfAll numbers = unitOfAll others := by
  have hpositives : (positives numbers).Perm (positives others) := hperm.filter _
  have hwhole : Number.AreWhole (positives numbers) :=
    fun n hn => hwhole n (List.mem_of_mem_filter hn)
  obtain ⟨values, hvalues⟩ := hwhole.exists_values
  obtain ⟨others', hothers⟩ := Number.AreWhole.exists_values
    fun n hn => hwhole n (hpositives.mem_iff.mpr hn)
  have hsame : values.Perm others' := by
    rw [hvalues, hothers] at hpositives
    exact (List.map_perm_map_iff fun _ _ => Number.int.inj).mp hpositives
  unfold unitOfAll
  rw [← positives, ← positives, hvalues, hothers]
  simp only [List.isEmpty_map, List.length_map, Number.sum_int, hsame.sum_eq, hsame.length_eq,
    List.Perm.isEmpty_eq hsame]

namespace Cell

-- Whether a cell holds a whole number, a truth value, or a text that does not read as a float.
def IsSteady : Cell → Prop
  | .int _ | .bool _ => True
  | .text s => ∀ x, Literal.number? s.toList ≠ some (.float x)
  | _ => False

variable {cell other : Cell} {cells others : List Cell}

theorem IsSteady.whole (h : cell.IsSteady) {n : Number} (hn : cell.number? = some n) :
    ∃ value, n = .int value := by
  cases cell with
  | int value => exact ⟨value, (Option.some.inj hn).symm⟩
  | text s =>
      cases n with
      | int value => exact ⟨value, rfl⟩
      | float x => exact absurd hn (h x)
  | bool b => cases hn
  | _ => exact absurd h id

-- What such a cell is told apart by: a truth value counts as zero or one.
inductive Key where
  | number (n : Int)
  | word (text : String)
deriving DecidableEq

def key : Cell → Key
  | .int n => .number n
  | .bool b => .number (if b then 1 else 0)
  | .text s => .word s
  | _ => .word ""

theorem IsSteady.same_eq (h : cell.IsSteady) (hother : other.IsSteady) :
    cell.same other = (cell.key == other.key) := by
  have hwhole (a b : Int) : (Number.int a).same (.int b) = (Key.number a == .number b) := by
    rw [Number.same_int, Bool.eq_iff_iff]
    simp
  cases cell with
  | int a =>
      cases other with
      | int b => exact hwhole a b
      | bool b => exact hwhole a _
      | text t => rfl
      | _ => exact absurd hother id
  | bool a =>
      cases other with
      | int b => exact hwhole _ b
      | bool b => exact hwhole _ _
      | text t => rfl
      | _ => exact absurd hother id
  | text a =>
      cases other with
      | int b => rfl
      | bool b => rfl
      | text t =>
          rw [Bool.eq_iff_iff]
          simp [same, written, key]
      | _ => exact absurd hother id
  | _ => exact absurd h id

theorem countDistinct_of_steady (h : ∀ cell ∈ cells, cell.IsSteady) :
    countDistinct cells = .ok (distinct (cells.map key)).length := by
  have hidentity : cells.mapM identity = .ok cells := by
    induction cells with
    | nil => rfl
    | cons cell rest ih =>
        obtain ⟨hcell, hrest⟩ := List.forall_mem_cons.mp h
        have hscalar : cell.identity = .ok cell := by
          cases cell with
          | int _ | bool _ | text _ => rfl
          | _ => exact absurd hcell id
        rw [List.mapM_cons, hscalar, bind_of_eq_ok rfl, ih hrest]
        rfl
  have hkeys : (distinctBy same cells).map key = distinct (cells.map key) :=
    map_distinctBy fun a ha b hb => (h a ha).same_eq (h b hb)
  rw [countDistinct, hidentity, ← hkeys, List.length_map]
  rfl

end Cell

namespace Analysis

variable {settings : Settings} {dates : DateReader} {name : String} {numbers more : List Number}
variable {cells others values : List Cell} {hint : Option ColumnDescriptor}

theorem anyFraction_eq_ok_false_iff : anyFraction numbers = .ok false ↔
    ∀ n ∈ numbers, ∃ x, n.toFloat = .ok x ∧ x.isWhole = true := by
  induction numbers with
  | nil => simp [anyFraction]
  | cons n rest ih =>
      rw [anyFraction, bind_eq_ok_iff, List.forall_mem_cons, ← ih]
      constructor
      · rintro ⟨x, hx, hrest⟩
        split at hrest
        · next hwhole => exact ⟨⟨x, hx, hwhole⟩, hrest⟩
        · cases hrest
      · rintro ⟨⟨x, hx, hwhole⟩, hrest⟩
        exact ⟨x, hx, by rwa [if_pos hwhole]⟩

-- Where the search for a fraction comes to an end, the order of the numbers does not matter.
theorem anyFraction_perm (hperm : numbers.Perm more) {a b : Bool}
    (ha : anyFraction numbers = .ok a) (hb : anyFraction more = .ok b) : a = b := by
  have hnone : anyFraction numbers = .ok false ↔ anyFraction more = .ok false := by
    simp only [anyFraction_eq_ok_false_iff, hperm.mem_iff]
  rw [ha, hb] at hnone
  cases a with
  | false => exact (Except.ok.inj (hnone.mp rfl)).symm
  | true =>
      cases b with
      | false => exact absurd (hnone.mpr rfl) (by simp)
      | true => rfl

theorem classifyDeclared_perm {column : ColumnDescriptor} (hwhole : Number.AreWhole numbers)
    (hperm : numbers.Perm more) :
    classifyDeclared column numbers = classifyDeclared column more := by
  have hepoch : epochUnit? numbers = epochUnit? more := by
    rw [epochUnit?, epochUnit?, hperm.any_eq, Epoch.unitOfAll_perm hwhole hperm]
  rw [classifyDeclared, classifyDeclared, hepoch]

theorem classifyNumbers_perm (hwhole : Number.AreWhole numbers) (hperm : numbers.Perm more)
    {kind other : Classification} (h : classifyNumbers name numbers = .ok kind)
    (hother : classifyNumbers name more = .ok other) : kind = other := by
  rw [classifyNumbers, bind_eq_ok_iff] at h hother
  obtain ⟨a, ha, h⟩ := h
  obtain ⟨b, hb, hother⟩ := hother
  obtain rfl := anyFraction_perm hperm ha hb
  rw [← hperm.any_eq, ← Epoch.unitOfAll_perm hwhole hperm, h] at hother
  exact Except.ok.inj hother

theorem mostlyDates_perm (hperm : cells.Perm others) {a b : Bool}
    (ha : mostlyDates settings dates cells = .ok a)
    (hb : mostlyDates settings dates others = .ok b) : a = b := by
  rw [mostlyDates, bind_eq_ok_iff] at ha hb
  obtain ⟨found, hfound, ha⟩ := ha
  obtain ⟨found', hfound', hb⟩ := hb
  rw [hperm.length_eq, (perm_of_mapM hperm hfound hfound').count_eq, hb] at ha
  exact (Except.ok.inj ha).symm

theorem kindOf_perm (hsteady : ∀ cell ∈ cells, cell.IsSteady) (hperm : cells.Perm others)
    {kind other : Classification} (h : kindOf settings dates name cells hint = .ok kind)
    (hother : kindOf settings dates name others hint = .ok other) : kind = other := by
  have hnumbers : (cells.filterMap Cell.number?).Perm (others.filterMap Cell.number?) :=
    hperm.filterMap _
  have hwhole : Number.AreWhole (cells.filterMap Cell.number?) := by
    intro n hn
    obtain ⟨cell, hcell, hnumber⟩ := List.mem_filterMap.mp hn
    exact (hsteady cell hcell).whole hnumber
  cases hint with
  | some column =>
      simp only [kindOf] at h hother
      rw [classifyDeclared_perm hwhole hnumbers, hother] at h
      exact (Except.ok.inj h).symm
  | none =>
      simp only [kindOf, classifyUndeclared] at h hother
      rw [← hnumbers.length_eq, ← hperm.length_eq, ← hperm.all_eq] at hother
      split at h
      · next hall =>
        rw [if_pos hall] at hother
        exact classifyNumbers_perm hwhole hnumbers h hother
      · next hall =>
        rw [if_neg hall] at hother
        split at h
        · next hbool =>
          rw [if_pos hbool, pure_eq_ok_iff] at hother
          rw [pure_eq_ok_iff] at h
          rw [← h, hother]
        · next hbool =>
          rw [if_neg hbool] at hother
          obtain ⟨a, ha, h⟩ := bind_eq_ok_iff.mp h
          obtain ⟨b, hb, hother⟩ := bind_eq_ok_iff.mp hother
          obtain rfl := mostlyDates_perm hperm ha hb
          rw [h] at hother
          exact Except.ok.inj hother

theorem shown_perm (hsteady : ∀ cell ∈ cells, cell.IsSteady) (hperm : cells.Perm others)
    (kind : Classification) : shown kind cells = shown kind others := by
  have hothers : ∀ cell ∈ others, cell.IsSteady := fun cell hcell =>
    hsteady cell (hperm.mem_iff.mpr hcell)
  rw [shown, shown, Cell.countDistinct_of_steady hsteady, Cell.countDistinct_of_steady hothers,
    length_distinct_of_perm (hperm.map Cell.key), hperm.length_eq]

end Analysis

-- A field apart from the number of its values.
def FieldInfo.uncounted (field : FieldInfo) : FieldInfo := { field with cardinality := 0 }

namespace Analysis

section Columns

variable {settings : Settings} {dates : DateReader} {name : String} {values others : List Cell}
variable {hint : Option ColumnDescriptor} {field changed : FieldInfo}

-- Whether the schema says that a column holds time.
def declaresTime (hint : Option ColumnDescriptor) : Prop :=
  ∃ column ∈ hint, column.unit.isSome = true ∨
    (SemanticType.ofDatabase column.dataType).isTemporal = true

theorem isTime_emptyField_iff (name : String) :
    (emptyField name hint).isTime = true ↔ declaresTime hint := by
  cases hint with
  | none => simp [emptyField, declaresTime]
  | some column => simp [emptyField, declaresTime]

-- What a kind that is told from no cells makes of a column.
theorem isTime_of_kindOf_nil {kind : Classification}
    (h : kindOf settings dates name [] hint = .ok kind) (hdeclared : declaresTime hint) :
    kind.isTime = true ∧ kind.semantic = (emptyField name hint).semantic ∧
      kind.unit = (emptyField name hint).unit := by
  obtain ⟨column, rfl, hcolumn⟩ := hdeclared
  simp only [kindOf, classifyDeclared] at h
  split at h
  · next hnamed =>
    obtain rfl : (⟨_, column.unit.isSome, column.unit⟩ : Classification) = kind := Except.ok.inj h
    refine ⟨hcolumn.resolve_right fun htemporal => ?_, rfl, rfl⟩
    rcases hnamed.1 with hinteger | hbigint
    · rw [hinteger] at htemporal
      cases htemporal
    · rw [hbigint] at htemporal
      cases htemporal
  · obtain rfl := pure_eq_ok_iff.mp h
    refine ⟨?_, rfl, rfl⟩
    rcases hcolumn with hunit | htemporal
    · simp [hunit]
    · simp [htemporal]

-- A column is told apart from an empty one by an empty sample, unless it is declared to hold time:
-- else no column would be called categorical for it.
theorem uncounted_emptyField_iff {kind : Classification} {role : FieldRole} {content : ContentType}
    (hkind : kindOf settings dates name [] hint = .ok kind)
    (hshown : shown kind [] = .ok (role, content)) (cardinality : Nat) :
    (emptyField name hint).uncounted =
        (⟨name, kind.semantic, role, content, kind.isTime, kind.unit, cardinality,
          hint.map (·.dataType)⟩ : FieldInfo).uncounted ↔ declaresTime hint := by
  rw [← isTime_emptyField_iff name]
  constructor
  · intro heq
    by_contra htime
    have hcontent := congrArg FieldInfo.content heq
    have hempty : (emptyField name hint).content = .categorical := by
      simpa [emptyField] using htime
    obtain rfl : .categorical = content := hempty.symm.trans hcontent
    have hcount : Cell.countDistinct [] = .ok 0 := rfl
    rw [shown, hcount, bind_of_eq_ok rfl] at hshown
    split at hshown
    · cases hshown
    · split at hshown
      · cases hshown
      · split at hshown
        · next hfew => exact absurd hfew (by decide)
        · cases hshown
  · intro htime
    obtain ⟨hkindTime, hsemantic, hunit⟩ :=
      isTime_of_kindOf_nil hkind ((isTime_emptyField_iff name).mp htime)
    have hcontent : (emptyField name hint).content = .temporal := by
      simpa [emptyField] using htime
    rw [shown, if_pos hkindTime] at hshown
    obtain ⟨rfl, rfl⟩ := Prod.mk.inj (pure_eq_ok_iff.mp hshown)
    rw [hsemantic, hunit, hkindTime, ← htime, ← hcontent]
    rfl

theorem fieldOf_congr (h : others.filter (!·.isNull) = values.filter (!·.isNull)) :
    fieldOf settings dates name others hint = fieldOf settings dates name values hint := by
  rw [fieldOf, fieldOf, h]

theorem sample_eq_take (hsize : 0 ≤ settings.sampleSize) (cells : List Cell) :
    sample settings.sampleSize cells = cells.take settings.sampleSize.toNat := if_pos hsize

section Pairs

variable (h : fieldOf settings dates name values hint = .ok field)
variable (hchanged : fieldOf settings dates name others hint = .ok changed)
variable (hsize : 0 ≤ settings.sampleSize)

include h hchanged

theorem uncounted_of_sample (hvalues : values.filter (!·.isNull) ≠ [])
    (hothers : others.filter (!·.isNull) ≠ [])
    (hsample : sample settings.sampleSize (others.filter (!·.isNull)) =
      sample settings.sampleSize (values.filter (!·.isNull))) :
    changed.uncounted = field.uncounted := by
  rcases fieldOf_eq_ok_iff.mp h with
    ⟨hempty, -⟩ | ⟨-, kind, role, content, _, hkind, hshown, -, rfl⟩
  · exact absurd hempty hvalues
  rcases fieldOf_eq_ok_iff.mp hchanged with
    ⟨hempty, -⟩ | ⟨-, kind', role', content', _, hkind', hshown', -, rfl⟩
  · exact absurd hempty hothers
  rw [hsample] at hkind' hshown'
  obtain rfl := Except.ok.inj (hkind.symm.trans hkind')
  obtain ⟨rfl, rfl⟩ := Prod.mk.inj (Except.ok.inj (hshown.symm.trans hshown'))
  rfl

include hsize

-- Where all values are gone and none of them was in the sample.
theorem uncounted_of_emptied (hvalues : values.filter (!·.isNull) ≠ [])
    (hothers : others.filter (!·.isNull) = []) (hzero : settings.sampleSize = 0) :
    changed.uncounted = field.uncounted ↔ declaresTime hint := by
  rcases fieldOf_eq_ok_iff.mp h with
    ⟨hempty, -⟩ | ⟨-, kind, role, content, _, hkind, hshown, -, rfl⟩
  · exact absurd hempty hvalues
  rcases fieldOf_eq_ok_iff.mp hchanged with ⟨-, rfl⟩ | ⟨hne, -⟩
  · rw [sample_eq_take hsize, hzero] at hkind hshown
    exact uncounted_emptyField_iff hkind hshown _
  · exact absurd hothers hne

-- Samples are the same where the values begin with the same ones.
theorem uncounted_iff_of_take (htake : (others.filter (!·.isNull)).take settings.sampleSize.toNat =
      (values.filter (!·.isNull)).take settings.sampleSize.toNat) :
    changed.uncounted = field.uncounted ↔ settings.sampleSize ≠ 0 ∨
      (others.filter (!·.isNull) = [] ↔ values.filter (!·.isNull) = []) ∨ declaresTime hint := by
  have hzero {cells : List Cell} (hne : cells ≠ [])
      (hnone : cells.take settings.sampleSize.toNat = []) : settings.sampleSize = 0 := by
    have := (List.take_eq_nil_iff.mp hnone).resolve_right hne
    omega
  by_cases hvalues : values.filter (!·.isNull) = []
  · by_cases hothers : others.filter (!·.isNull) = []
    · rw [fieldOf_congr (hothers.trans hvalues.symm), h] at hchanged
      obtain rfl := Except.ok.inj hchanged
      exact iff_of_true rfl (.inr (.inl (iff_of_true hothers hvalues)))
    · have hsize' := hzero hothers (by rw [htake, hvalues, List.take_nil])
      rw [eq_comm, uncounted_of_emptied hchanged h hsize hothers hvalues hsize']
      simp [hsize', hvalues, hothers]
  · by_cases hothers : others.filter (!·.isNull) = []
    · have hsize' := hzero hvalues (by rw [← htake, hothers, List.take_nil])
      rw [uncounted_of_emptied h hchanged hsize hvalues hothers hsize']
      simp [hsize', hvalues, hothers]
    · refine iff_of_true (uncounted_of_sample h hchanged hvalues hothers ?_)
        (.inr (.inl (iff_of_false hothers hvalues)))
      rw [sample_eq_take hsize, sample_eq_take hsize, htake]

theorem fieldOf_perm
    (hperm : (others.filter (!·.isNull)).Perm (values.filter (!·.isNull)))
    (hlength : (values.filter (!·.isNull)).length ≤ settings.sampleSize)
    (hsteady : ∀ cell ∈ values.filter (!·.isNull), cell.IsSteady) : changed = field := by
  have hwhole {cells : List Cell} (hcells : cells.length ≤ settings.sampleSize) :
      sample settings.sampleSize cells = cells := by
    rw [sample_eq_take hsize, List.take_of_length_le (by omega)]
  have hempty : others.filter (!·.isNull) = [] ↔ values.filter (!·.isNull) = [] := by
    rw [← List.length_eq_zero_iff, hperm.length_eq, List.length_eq_zero_iff]
  rcases fieldOf_eq_ok_iff.mp h with
    ⟨hnil, rfl⟩ | ⟨hne, kind, role, content, count, hkind, hshown, hcount, rfl⟩
  · rcases fieldOf_eq_ok_iff.mp hchanged with ⟨-, rfl⟩ | ⟨hne, -⟩
    · rfl
    · exact absurd (hempty.mpr hnil) hne
  rcases fieldOf_eq_ok_iff.mp hchanged with
    ⟨hnil, -⟩ | ⟨-, kind', role', content', count', hkind', hshown', hcount', rfl⟩
  · exact absurd (hempty.mp hnil) hne
  rw [hwhole hlength] at hkind hshown
  rw [hwhole (hperm.length_eq ▸ hlength)] at hkind' hshown'
  obtain rfl := kindOf_perm hsteady hperm.symm hkind hkind'
  rw [← shown_perm hsteady hperm.symm, hshown] at hshown'
  obtain ⟨rfl, rfl⟩ := Prod.mk.inj (Except.ok.inj hshown')
  have hcounts : Cell.countDistinct (others.filter (!·.isNull)) =
      Cell.countDistinct (values.filter (!·.isNull)) := by
    rw [Cell.countDistinct_of_steady hsteady, Cell.countDistinct_of_steady fun cell hcell =>
      hsteady cell (hperm.mem_iff.mp hcell), length_distinct_of_perm (hperm.map Cell.key)]
  rw [hcounts, hcount] at hcount'
  obtain rfl := Except.ok.inj hcount'
  rfl

end Pairs

end Columns

section Rows

variable {settings : Settings} {dates : DateReader} {rows others : List Row}
variable {hints : List ColumnDescriptor} {found other : List FieldInfo} {field : FieldInfo}

-- The values of a column.
def present (name : String) (rows : List Row) : List Cell := (valued name rows).map (·.get name)

theorem filter_get (name : String) (rows : List Row) :
    (rows.map (·.get name)).filter (!·.isNull) = present name rows := by
  rw [present, valued, List.filter_map]
  rfl

-- Each column has one field.
theorem exists_field (h : fields settings dates rows hints = .ok found) {name : String}
    (hname : name ∈ columnNames rows) : ∃ field,
      fieldOf settings dates name (rows.map (·.get name)) (hint? hints name) = .ok field ∧
        ∀ other, other ∈ found ∧ other.name = name ↔ other = field := by
  obtain ⟨field, hfield⟩ := exists_mapM_iff.mp ⟨found, h⟩ name hname
  refine ⟨field, hfield, fun other => ⟨?_, ?_⟩⟩
  · rintro ⟨hmem, rfl⟩
    exact Except.ok.inj (((mem_fields_iff h).mp hmem).2.symm.trans hfield)
  · rintro rfl
    obtain rfl := name_fieldOf hfield
    exact ⟨(mem_fields_iff h).mpr ⟨hname, hfield⟩, rfl⟩

-- The field of a column comes from its values alone, wherever rows without one stand between them.
-- But for their number it comes from as many of them as make a sample. Only a sample of no cells at
-- all is taken for numbers, where there are values, and not where there are none. The order of
-- whole numbers, truth values and words in a sample is not looked at.
theorem field_of_values (h : fields settings dates rows hints = .ok found) (hmem : field ∈ found)
    (hother : fields settings dates others hints = .ok other)
    (hname : field.name ∈ columnNames others) (hsize : 0 ≤ settings.sampleSize) :
    (valued field.name others = valued field.name rows → field ∈ other) ∧
    ((present field.name others).take settings.sampleSize.toNat =
        (present field.name rows).take settings.sampleSize.toNat →
      ((∃ changed ∈ other, changed.uncounted = field.uncounted) ↔
        settings.sampleSize ≠ 0 ∨ (present field.name others = [] ↔ present field.name rows = []) ∨
          declaresTime (hint? hints field.name))) ∧
    (others.Perm rows → (present field.name rows).length ≤ settings.sampleSize →
      (∀ cell ∈ present field.name rows, cell.IsSteady) → field ∈ other) := by
  obtain ⟨changed, hchanged, hunique⟩ := exists_field hother hname
  obtain ⟨-, hfield⟩ := (mem_fields_iff h).mp hmem
  have hkept (heq : changed = field) : field ∈ other := ((hunique field).mpr heq.symm).1
  have hvalues := filter_get field.name rows
  have hothers := filter_get field.name others
  refine ⟨fun hvalued => hkept ?_, fun htake => ?_, fun hperm hlength hsteady => hkept ?_⟩
  · have hsame : present field.name others = present field.name rows := by
      rw [present, present, hvalued]
    rw [fieldOf_congr (hothers.trans (hsame.trans hvalues.symm)), hfield] at hchanged
    exact (Except.ok.inj hchanged).symm
  · have hfound : (∃ changed ∈ other, changed.uncounted = field.uncounted) ↔
        changed.uncounted = field.uncounted := by
      constructor
      · rintro ⟨found, hfound, heq⟩
        have hsame : found.uncounted.name = field.uncounted.name := congrArg FieldInfo.name heq
        rwa [← (hunique found).mp ⟨hfound, hsame⟩]
      · exact fun heq => ⟨changed, ((hunique changed).mpr rfl).1, heq⟩
    rw [← hothers, ← hvalues] at htake
    rw [hfound, uncounted_iff_of_take hfield hchanged hsize htake, hothers, hvalues]
  · rw [← hvalues] at hlength hsteady
    refine fieldOf_perm hfield hchanged hsize ?_ hlength hsteady
    exact (hperm.map _).filter _

end Rows

-- The standard settings, with samples of some other size.
def sampling (size : Int) : Settings := { Surroundings.quiet.settings with sampleSize := size }

-- A word and two numbers, with a null between them, in two orders.
theorem field_of_values_mixed : ∃ field other,
    fields (sampling 3) Surroundings.quiet.dates (single [.int 3, .null, .text "x", .int 9]) [] =
        .ok [field] ∧
      fields (sampling 3) Surroundings.quiet.dates (single [.text "x", .int 9, .int 3, .null]) [] =
        .ok other ∧ field ∈ other := by
  have hfields : fields (sampling 3) Surroundings.quiet.dates
      (single [.int 3, .null, .text "x", .int 9]) [] =
        .ok [⟨"v", .string, .dimension, .text, false, none, 3, none⟩] := by
    decide +kernel
  have hothers : fields (sampling 3) Surroundings.quiet.dates
      (single [.text "x", .int 9, .int 3, .null]) [] =
        .ok [⟨"v", .string, .dimension, .text, false, none, 3, none⟩] := by
    decide +kernel
  refine ⟨_, _, hfields, hothers, ?_⟩
  obtain ⟨-, -, horder⟩ := field_of_values hfields List.mem_cons_self hothers (by decide +kernel)
    (by decide)
  have hword : Literal.number? "x".toList = none := by decide +kernel
  refine horder ?_ (by decide +kernel) ?_
  · have hperm : ([.text "x", .int 9] ++ [.int 3, .null] : List Cell).Perm
        ([.int 3, .null] ++ [.text "x", .int 9]) := List.perm_append_comm
    exact hperm.map _
  · have hpresent : present "v" (single [.int 3, .null, .text "x", .int 9]) =
        [.int 3, .text "x", .int 9] := rfl
    rw [hpresent]
    simp only [List.forall_mem_cons]
    refine ⟨trivial, fun x => ?_, trivial, nofun⟩
    rw [hword]
    exact nofun

-- With samples of no cells a column of one word is one of numbers, but without the word it is not.
theorem fields_of_empty_sample :
    fields (sampling 0) Surroundings.quiet.dates (single [.text "x"]) [] =
        .ok [⟨"v", .integer, .measure, .numeric, false, none, 1, none⟩] ∧
      fields (sampling 0) Surroundings.quiet.dates (single [.null]) [] =
        .ok [⟨"v", .string, .dimension, .categorical, false, none, 0, none⟩] := by
  decide +kernel

end Analysis

end TimePanel
