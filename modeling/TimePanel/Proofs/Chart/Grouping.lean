import Mathlib
import TimePanel.Chart.Series
import TimePanel.Proofs.Chart.Coercion

/-! The series that rows belong to, and the rows of each. -/

namespace TimePanel

section Distinct

variable {α β : Type}

theorem mem_of_mem_distinctBy {same : α → α → Bool} {items : List α} {a : α}
    (h : a ∈ distinctBy same items) : a ∈ items := by
  induction items with
  | nil => exact h
  | cons first rest ih =>
      rw [distinctBy, List.mem_cons, List.mem_filter] at h
      rcases h with rfl | ⟨h, -⟩
      · exact List.mem_cons_self
      · exact List.mem_cons_of_mem _ (ih h)

variable [BEq α]

-- Items that count as the same exactly if they have the same image.
theorem map_distinctBy {f : β → α} {same : β → β → Bool} {items : List β}
    (h : ∀ a ∈ items, ∀ b ∈ items, same a b = (f a == f b)) :
    (distinctBy same items).map f = distinct (items.map f) := by
  unfold distinct
  induction items with
  | nil => rfl
  | cons first rest ih =>
      have hrest := ih fun a ha b hb =>
        h a (List.mem_cons_of_mem _ ha) b (List.mem_cons_of_mem _ hb)
      have hkept : (distinctBy same rest).filter (fun b => !same first b) =
          (distinctBy same rest).filter (fun b => !(f first == f b)) := by
        apply List.filter_congr
        intro b hb
        rw [h first List.mem_cons_self b (List.mem_cons_of_mem _ (mem_of_mem_distinctBy hb))]
      rw [distinctBy, List.map_cons, List.map_cons, distinctBy, hkept, ← hrest, List.filter_map]
      rfl

variable [LawfulBEq α]

theorem mem_distinct {items : List α} {a : α} : a ∈ distinct items ↔ a ∈ items := by
  refine ⟨mem_of_mem_distinctBy, ?_⟩
  unfold distinct
  induction items with
  | nil => exact id
  | cons first rest ih =>
      intro h
      rw [distinctBy, List.mem_cons, List.mem_filter]
      by_cases hfirst : a = first
      · exact .inl hfirst
      · right
        have hrest := ih (List.mem_of_ne_of_mem hfirst h)
        simpa [hrest] using Ne.symm hfirst

theorem nodup_distinct (items : List α) : (distinct items).Nodup := by
  unfold distinct
  induction items with
  | nil => exact List.nodup_nil
  | cons first rest ih =>
      rw [distinctBy, List.nodup_cons]
      refine ⟨?_, ih.filter _⟩
      simp [List.mem_filter]

end Distinct

-- The items of a list, each once, in the order in which they come up.
structure IsFirstSeen {α : Type} [DecidableEq α] (items found : List α) : Prop where
  nodup : found.Nodup
  mem_iff : ∀ a, a ∈ found ↔ a ∈ items
  ordered : found.Pairwise fun a b => items.idxOf a < items.idxOf b

theorem isFirstSeen_distinct {α : Type} [DecidableEq α] (items : List α) :
    IsFirstSeen items (distinct items) := by
  refine ⟨nodup_distinct items, fun _ => mem_distinct, ?_⟩
  unfold distinct
  induction items with
  | nil => exact .nil
  | cons first rest ih =>
      have hne {a : α} (ha : a ∈ (distinctBy (· == ·) rest).filter fun b => !(first == b)) :
          first ≠ a := by
        simpa using (List.mem_filter.mp ha).2
      rw [distinctBy, List.pairwise_cons]
      constructor
      · intro a ha
        rw [List.idxOf_cons_self, List.idxOf_cons_ne _ (hne ha)]
        exact Nat.zero_lt_succ _
      · refine (ih.filter _).imp_of_mem fun ha hb hlt => ?_
        rw [List.idxOf_cons_ne _ (hne ha), List.idxOf_cons_ne _ (hne hb)]
        exact Nat.succ_lt_succ hlt

section Parts

variable {α κ : Type} [DecidableEq κ] {key : α → κ} {keys : List κ} {items : List α}

-- The parts of a list by a key are together the whole list, if the keys are distinct and none is
-- left out.
theorem perm_flatMap_filter (hkeys : keys.Nodup) (hall : ∀ a ∈ items, key a ∈ keys) :
    (keys.flatMap fun k => items.filter (key · = k)).Perm items := by
  induction keys generalizing items with
  | nil =>
      cases items with
      | nil => exact List.Perm.refl _
      | cons a rest => exact absurd (hall a List.mem_cons_self) List.not_mem_nil
  | cons first rest ih =>
      obtain ⟨hfirst, hrest⟩ := List.nodup_cons.mp hkeys
      have hkept : ∀ a ∈ items.filter fun a => !decide (key a = first), key a ∈ rest := by
        intro a ha
        simp only [List.mem_filter, Bool.not_eq_true', decide_eq_false_iff_not] at ha
        exact (List.mem_cons.mp (hall a ha.1)).resolve_left ha.2
      have hothers := ih hrest hkept
      have hsame : ∀ k ∈ rest, (items.filter fun a => !decide (key a = first)).filter (key · = k) =
          items.filter (key · = k) := by
        intro k hk
        have hne : k ≠ first := fun h => hfirst (h ▸ hk)
        rw [List.filter_filter]
        apply List.filter_congr
        intro a _
        by_cases ha : key a = k
        · simp [ha, hne]
        · simp [ha]
      rw [List.flatMap_congr hsame] at hothers
      rw [List.flatMap_cons]
      exact (hothers.append_left _).trans (List.filter_append_perm (key · = first) items)

-- So sums over the parts add up to the sum over all.
theorem sum_map_filter (weight : α → Int) (hkeys : keys.Nodup) (hall : ∀ a ∈ items, key a ∈ keys) :
    (keys.map fun k => ((items.filter (key · = k)).map weight).sum).sum =
      (items.map weight).sum := by
  have hwhole := ((perm_flatMap_filter hkeys hall).map weight).sum_eq
  rw [List.map_flatMap, List.flatMap_def, List.sum_flatten, List.map_map] at hwhole
  exact hwhole

end Parts

-- What the series of a plot hold by name, apart from how they look.
def Plot.contents (plot : Plot) : List (String × List Entry) :=
  plot.series.map fun series => (series.name, series.data)

theorem Plot.contents_colored (shape : SeriesShape) (groups : List (String × List Entry))
    (labels : Option (List String)) :
    (Plot.mk (Series.colored shape groups) labels).contents = groups := by
  simp [contents, Series.colored, Function.comp_def]

namespace FieldMapping

variable (mapping : FieldMapping)

-- The name of the series that a row belongs to: its label in the column that rows are grouped by,
-- or the name of the y column.
def seriesOf (row : Row) : String := mapping.grouping.elim mapping.y row.label

def seriesNames (rows : List Row) : List String :=
  mapping.grouping.elim [mapping.y] fun column => distinct (rows.map (·.label column))

theorem nodup_seriesNames (rows : List Row) : (mapping.seriesNames rows).Nodup := by
  unfold seriesNames
  cases mapping.grouping with
  | none => exact List.pairwise_singleton _ _
  | some column => exact nodup_distinct _

variable {mapping}

theorem mem_seriesNames_iff {rows : List Row} (h : rows ≠ []) {name : String} :
    name ∈ mapping.seriesNames rows ↔ ∃ row ∈ rows, mapping.seriesOf row = name := by
  unfold seriesOf seriesNames
  cases mapping.grouping with
  | none =>
      obtain ⟨row, hrow⟩ := List.exists_mem_of_ne_nil rows h
      refine ⟨fun hname => ⟨row, hrow, (List.mem_singleton.mp hname).symm⟩, ?_⟩
      rintro ⟨-, -, rfl⟩
      exact List.mem_singleton_self _
  | some column => simp only [Option.elim_some, mem_distinct, List.mem_map]

theorem groupRowsOr_eq (rows : List PlacedRow) :
    groupRowsOr rows mapping.grouping mapping.y =
      (mapping.seriesNames (rows.map Prod.fst)).map fun name =>
        (name, rows.filter fun row => mapping.seriesOf row.1 = name) := by
  unfold groupRowsOr seriesNames seriesOf
  cases mapping.grouping with
  | none => simp
  | some column =>
      simp only [groupRows, Option.elim_some, List.map_map]
      rfl

end FieldMapping

-- What is drawn of placed rows does not depend on their places.
theorem map_zipIdx {β : Type} (f : Row → β) (rows : List Row) :
    (rows.zipIdx.map fun row => f row.1) = rows.map f := by
  conv => rhs; rw [← List.zipIdx_map_fst 0 rows, List.map_map]
  rfl

theorem map_filter_zipIdx {β : Type} (test : Row → Bool) (f : Row → β) (rows : List Row) :
    (rows.zipIdx.filter fun row => test row.1).map (fun row => f row.1) =
      (rows.filter test).map f := by
  conv => rhs; rw [← List.zipIdx_map_fst 0 rows, List.filter_map, List.map_map]
  rfl

end TimePanel
