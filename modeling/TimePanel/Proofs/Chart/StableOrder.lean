import TimePanel.Chart.Synthesis
import TimePanel.Proofs.Chart.Order
import TimePanel.Proofs.Fault

/-! The order of rows whose x are whole numbers, truth values, texts or missing. Their keys stand in
one line, rows with equal keys stay as they were, and the keys come in one order however the rows
came. -/

namespace TimePanel

namespace SortKey

-- Keys that are told apart by their places on a line: the numbers, the texts, and the end.
inductive IsExact : SortKey → Prop
  | number (n : Int) : IsExact (.number (.int n))
  | text (s : String) : IsExact (.text s)
  | last : IsExact .last

def place : SortKey → WithTop (Int ⊕ₗ String)
  | .number (.int n) => (toLex (Sum.inl n) : Int ⊕ₗ String)
  | .text s => (toLex (Sum.inr s) : Int ⊕ₗ String)
  | _ => ⊤

variable {a b : SortKey}

theorem le_eq_place (ha : a.IsExact) (hb : b.IsExact) :
    a.le b = decide (a.place ≤ b.place) := by
  cases ha with
  | number m =>
      cases hb with
      | number n => simp [le_number_int, place]
      | text t => simp [le, place]
      | last => simp [le, place]
  | text s =>
      cases hb with
      | number n => simp [le, place]
      | text t => simp [le_text, place]
      | last => simp [le, place]
  | last =>
      cases hb with
      | number n => simp [le, place]
      | text t => simp [le, place]
      | last => simp [le, place]

theorem eq_of_place_eq (ha : a.IsExact) (hb : b.IsExact) (h : a.place = b.place) : a = b := by
  cases ha with
  | number m => cases hb <;> simp_all [place]
  | text s => cases hb <;> simp_all [place]
  | last => cases hb <;> simp_all [place]

end SortKey

section Keys

variable {α : Type} {key : α → SortKey} {items others : List α}

-- Whether the keys of items can all be compared, as they stand in one line. Only equal keys tie.
structure KeysAreOrdered (key : α → SortKey) (items : List α) : Prop where
  total : ∀ a ∈ items, ∀ b ∈ items, (key a).le (key b) = true ∨ (key b).le (key a) = true
  trans : ∀ a ∈ items, ∀ b ∈ items, ∀ c ∈ items,
    (key a).le (key b) = true → (key b).le (key c) = true → (key a).le (key c) = true
  eq_of_tied : ∀ a ∈ items, ∀ b ∈ items,
    (key a).le (key b) = true → (key b).le (key a) = true → key a = key b

theorem keysFollow_of_exact (h : ∀ a ∈ items, (key a).IsExact) :
    KeysFollow key (fun a => (key a).place) items :=
  fun a ha b hb => SortKey.le_eq_place (h a ha) (h b hb)

theorem keysAreOrdered_of_exact (h : ∀ a ∈ items, (key a).IsExact) : KeysAreOrdered key items := by
  have hle (a : α) (ha : a ∈ items) (b : α) (hb : b ∈ items) :
      (key a).le (key b) = true ↔ (key a).place ≤ (key b).place := by
    rw [keysFollow_of_exact h a ha b hb, decide_eq_true_eq]
  constructor
  · intro a ha b hb
    rw [hle a ha b hb, hle b hb a ha]
    exact le_total _ _
  · intro a ha b hb c hc
    rw [hle a ha b hb, hle b hb c hc, hle a ha c hc]
    exact le_trans
  · intro a ha b hb
    rw [hle a ha b hb, hle b hb a ha]
    exact fun hab hba => SortKey.eq_of_place_eq (h a ha) (h b hb) (le_antisymm hab hba)

-- Items with equal keys keep their order.
theorem filter_key_sortByKey (h : ∀ a ∈ items, (key a).IsExact) (tie : SortKey) :
    (sortByKey key items).filter (key · = tie) = items.filter (key · = tie) := by
  have hsame (sorted : List α) (hsorted : sorted.Perm items) (htie : tie.IsExact) :
      sorted.filter (key · = tie) = sorted.filter fun a => (key a).place = tie.place := by
    apply List.filter_congr
    intro a ha
    rw [decide_eq_decide]
    exact ⟨congrArg SortKey.place, SortKey.eq_of_place_eq (h a (hsorted.mem_iff.mp ha)) htie⟩
  by_cases htie : tie.IsExact
  · rw [hsame _ (perm_sortByKey key items) htie, hsame items (.refl items) htie]
    exact filter_sortByKey (keysFollow_of_exact h) tie.place
  -- No item has a key that is not exact.
  · have hnone (sorted : List α) (hsorted : sorted.Perm items) :
        sorted.filter (key · = tie) = [] := by
      rw [List.filter_eq_nil_iff]
      intro a ha hkey
      exact htie (of_decide_eq_true hkey ▸ h a (hsorted.mem_iff.mp ha))
    rw [hnone _ (perm_sortByKey key items), hnone items (.refl items)]

-- What is in order stays as it is.
theorem sortByKey_sortByKey (h : ∀ a ∈ items, (key a).IsExact) :
    sortByKey key (sortByKey key items) = sortByKey key items := by
  have hkeys := keysFollow_of_exact h
  rw [sortByKey_eq_mergeSort (hkeys.perm (perm_sortByKey key items))]
  apply List.mergeSort_of_pairwise
  simpa only [decide_eq_true_eq] using pairwise_sortByKey hkeys

theorem pairwise_key_sortByKey (h : ∀ a ∈ items, (key a).IsExact) :
    ((sortByKey key items).map key).Pairwise fun a b => a.place ≤ b.place :=
  List.pairwise_map.mpr (pairwise_sortByKey (keysFollow_of_exact h))

-- The keys in order do not depend on the order of the items before.
theorem map_key_sortByKey_of_perm (h : ∀ a ∈ items, (key a).IsExact) (hperm : others.Perm items) :
    (sortByKey key others).map key = (sortByKey key items).map key := by
  have hkeys : ((sortByKey key others).map key).Perm (items.map key) :=
    ((perm_sortByKey key others).trans hperm).map key
  have hexact : ∀ k ∈ items.map key, k.IsExact := List.forall_mem_map.mpr h
  have hothers := pairwise_key_sortByKey fun a ha => h a (hperm.mem_iff.mp ha)
  refine List.Perm.eq_of_pairwise ?_ hothers (pairwise_key_sortByKey h)
    (hkeys.trans ((perm_sortByKey key items).symm.map key))
  intro a b ha hb hab hba
  have hb := ((perm_sortByKey key items).map key).mem_iff.mp hb
  exact SortKey.eq_of_place_eq (hexact a (hkeys.mem_iff.mp ha)) (hexact b hb) (le_antisymm hab hba)

end Keys

namespace Cell

variable {cell other : Cell}

-- The code points of the text of a cell, which order texts as words in a dictionary.
def codePoints (cell : Cell) : List Nat := cell.display.toList.map Char.toNat

theorem codePoints_le (h : cell.display ≤ other.display) : cell.codePoints ≤ other.codePoints := by
  rcases (String.le_iff_toList_le.mp h).lt_or_eq with hlt | heq
  · exact le_of_lt (List.map_lt (fun _ _ hchar => hchar) hlt)
  · exact le_of_eq (congrArg (List.map Char.toNat) heq)

-- Whole numbers that can be written, truth values, texts, and nothing at all.
def IsComparable : Cell → Prop
  | .int n => n.natAbs < writtenBound
  | .null | .bool _ | .text _ => True
  | _ => False

theorem IsComparable.isWritable (h : cell.IsComparable) : cell.isWritable = true := by
  cases cell with
  | int n => simpa only [IsComparable, isWritable, decide_eq_true_eq] using h
  | null | bool _ | text _ => rfl
  | _ => exact h.elim

theorem IsComparable.isExact (h : cell.IsComparable) (numeric : Bool) :
    (SortKey.ofCell numeric cell).IsExact := by
  cases cell with
  | int n =>
      cases numeric with
      | true => exact .number n
      | false => exact .text _
  | null => exact .last
  | bool _ | text _ => exact .text _
  | _ => exact h.elim

end Cell

section Rows

variable {column : String} {rows others : List Row}

-- The key of a row among the others.
def Row.sortKey (column : String) (rows : List Row) (row : Row) : SortKey :=
  .ofCell (isNumericColumn column rows) (row.get column)

theorem sortRows_eq (rows : List Row) (column : String) :
    sortRows rows column = sortByKey (Row.sortKey column rows) rows := rfl

theorem sortKey_of_perm (h : others.Perm rows) :
    Row.sortKey column others = Row.sortKey column rows := by
  unfold Row.sortKey
  rw [isNumericColumn_of_perm h]

-- A column of such cells.
def AreComparable (column : String) (rows : List Row) : Prop :=
  ∀ row ∈ rows, (row.get column).IsComparable

-- What rows in the order of a column are to the rows before: those with a value come first, by
-- number if there are only whole numbers among them, else by text.
structure IsStableOrder (column : String) (rows sorted : List Row) : Prop where
  perm : sorted.Perm rows
  missing_last : sorted = valued column sorted ++ unvalued column sorted
  numbers_ascend : IsCounted column rows → (valued column sorted).Pairwise fun a b =>
    ∃ m n, a.get column = .int m ∧ b.get column = .int n ∧ m ≤ n
  texts_ascend : ¬ IsCounted column rows → (valued column sorted).Pairwise fun a b =>
    (a.get column).codePoints ≤ (b.get column).codePoints
  ties_stay : ∀ tie, sorted.filter (·.sortKey column rows = tie) =
    rows.filter (·.sortKey column rows = tie)

theorem AreComparable.perm (h : AreComparable column rows) (hperm : others.Perm rows) :
    AreComparable column others :=
  fun row hrow => h row (hperm.mem_iff.mp hrow)

theorem AreComparable.isExact (h : AreComparable column rows) :
    ∀ row ∈ rows, (row.sortKey column rows).IsExact :=
  fun row hrow => (h row hrow).isExact _

theorem AreComparable.isNumericColumn_iff (h : AreComparable column rows) :
    isNumericColumn column rows = true ↔ IsCounted column rows := by
  refine ⟨fun hnumeric row hrow => ?_, isNumericColumn_of_isCounted⟩
  have hcell := h row hrow
  have hplain := List.all_eq_true.mp hnumeric row hrow
  cases hget : row.get column with
  | null => exact .inl rfl
  | int n => exact .inr ⟨n, rfl⟩
  | bool _ | text _ =>
      rw [hget] at hplain
      cases hplain
  | _ =>
      rw [hget] at hcell
      exact hcell.elim

theorem orderRows_eq_ok (h : AreComparable column rows) :
    orderRows rows column = .ok (sortRows rows column) := by
  have hwritable : (rows.all fun row => (row.get column).isWritable) = true :=
    List.all_eq_true.mpr fun row hrow => (h row hrow).isWritable
  rw [orderRows, isComparableColumn, hwritable, Bool.or_true, if_pos rfl]

theorem numbers_ascend_sortRows (hcounted : IsCounted column rows) :
    (valued column (sortRows rows column)).Pairwise fun a b =>
      ∃ m n, a.get column = .int m ∧ b.get column = .int n ∧ m ≤ n := by
  have hint : ∀ row ∈ valued column (sortRows rows column), ∃ n, row.get column = .int n := by
    intro row hrow
    obtain ⟨hrow, hvalued⟩ := List.mem_filter.mp hrow
    rcases hcounted row ((perm_sortRows rows column).mem_iff.mp hrow) with hnull | hint
    · rw [hnull] at hvalued
      cases hvalued
    · exact hint
  refine ((pairwise_sortRows hcounted).filter _).imp_of_mem fun {a b} ha hb hplace => ?_
  obtain ⟨m, hm⟩ := hint a ha
  obtain ⟨n, hn⟩ := hint b hb
  refine ⟨m, n, hm, hn, ?_⟩
  simpa [Row.place, hm, hn] using hplace

theorem texts_ascend_sortRows (h : AreComparable column rows) (hmixed : ¬ IsCounted column rows) :
    (valued column (sortRows rows column)).Pairwise fun a b =>
      (a.get column).codePoints ≤ (b.get column).codePoints := by
  have hnumeric : isNumericColumn column rows = false := by
    rwa [← Bool.not_eq_true, h.isNumericColumn_iff]
  have hplaces := (pairwise_sortByKey (keysFollow_textPlace hnumeric)).filter
    fun row : Row => !(row.get column).isNull
  refine hplaces.imp_of_mem fun {a b} ha hb hplace => Cell.codePoints_le ?_
  have hvalued (row : Row) (hrow : row ∈ valued column (sortRows rows column)) :
      row.textPlace column = ((row.get column).display : String) := by
    rw [Row.textPlace, if_neg (by simpa using (List.mem_filter.mp hrow).2)]
  rwa [hvalued a ha, hvalued b hb, WithTop.coe_le_coe] at hplace

-- Rows whose x are whole numbers, truth values, texts or missing are put in a stable order of keys
-- that can all be compared. To do it again changes nothing, and neither does another order of the
-- rows before, as far as keys can tell.
theorem orderRows_stable (h : AreComparable column rows) :
    KeysAreOrdered (Row.sortKey column rows) rows ∧
    ∃ sorted, orderRows rows column = .ok sorted ∧ IsStableOrder column rows sorted ∧
      orderRows sorted column = .ok sorted ∧
      ∀ others : List Row, others.Perm rows → ∃ resorted, orderRows others column = .ok resorted ∧
        resorted.map (·.sortKey column others) = sorted.map (·.sortKey column rows) := by
  have hsorted := perm_sortRows rows column
  refine ⟨keysAreOrdered_of_exact h.isExact, sortRows rows column, orderRows_eq_ok h, ?_, ?_, ?_⟩
  · exact {
      perm := hsorted
      missing_last := sortRows_eq_append rows column
      numbers_ascend := numbers_ascend_sortRows
      texts_ascend := texts_ascend_sortRows h
      ties_stay := filter_key_sortByKey h.isExact }
  · rw [orderRows_eq_ok (h.perm hsorted), sortRows_eq (sortRows rows column),
      sortKey_of_perm hsorted, sortRows_eq, sortByKey_sortByKey h.isExact]
  · intro others hperm
    refine ⟨sortRows others column, orderRows_eq_ok (h.perm hperm), ?_⟩
    rw [sortRows_eq, sortRows_eq, sortKey_of_perm hperm, map_key_sortByKey_of_perm h.isExact hperm]

theorem isComparableColumn_of_perm (h : others.Perm rows) :
    isComparableColumn column others = isComparableColumn column rows := by
  rw [isComparableColumn, isComparableColumn, isNumericColumn_of_perm h, h.all_eq]

-- Numbers, a truth value and texts, some of which are written alike, and guests without a table.
def guests : List Row :=
  [[("table", .null), ("name", .text "Ada")], [("table", .int 10), ("name", .text "Bo")],
   [("table", .text "9"), ("name", .text "Cy")], [("name", .text "Di")],
   [("table", .bool true), ("name", .text "Ed")], [("table", .text "10"), ("name", .text "Flo")],
   [("table", .int 9), ("name", .text "Gus")]]

-- Those who share a table stay in the order in which they came, so the last comes first among them
-- where the guests come the other way round.
theorem orderRows_stable_guests : AreComparable "table" guests ∧
    KeysAreOrdered (Row.sortKey "table" guests) guests ∧
    ∃ sorted resorted, orderRows guests "table" = .ok sorted ∧
      IsStableOrder "table" guests sorted ∧ orderRows sorted "table" = .ok sorted ∧
      orderRows guests.reverse "table" = .ok resorted ∧
      resorted.map (·.sortKey "table" guests.reverse) = sorted.map (·.sortKey "table" guests) ∧
      sorted.map (·.get "name" |>.display) = ["Bo", "Flo", "Cy", "Gus", "Ed", "Ada", "Di"] ∧
      resorted.map (·.get "name" |>.display) = ["Flo", "Bo", "Gus", "Cy", "Ed", "Di", "Ada"] := by
  have hten : 10 < Cell.writtenBound := by decide +kernel
  have hnine : 9 < Cell.writtenBound := by omega
  have hcomparable : AreComparable "table" guests := by
    simp [AreComparable, guests, Row.get, List.lookup, Cell.IsComparable, hten, hnine]
  have hreversed := List.reverse_perm guests
  obtain ⟨hordered, sorted, hsorted, hstable, hagain, hothers⟩ := orderRows_stable hcomparable
  obtain ⟨resorted, hresorted, hkeys⟩ := hothers guests.reverse hreversed
  obtain rfl : sortRows guests "table" = sorted :=
    Except.ok.inj ((orderRows_eq_ok hcomparable).symm.trans hsorted)
  obtain rfl : sortRows guests.reverse "table" = resorted :=
    Except.ok.inj ((orderRows_eq_ok (hcomparable.perm hreversed)).symm.trans hresorted)
  exact ⟨hcomparable, hordered, _, _, hsorted, hstable, hagain, hresorted, hkeys, by cbv, by cbv⟩

end Rows

namespace ChartConfiguration

variable {env : Surroundings} {config : ChartConfiguration} {rows : List Row} {theme : Cell}

theorem isComparableColumn_of_areLabelsWritten (h : config.areLabelsWritten rows = true) :
    isComparableColumn config.mapping.x rows = true := by
  rw [areLabelsWritten, Bool.and_eq_true, Bool.or_eq_true, Bool.and_eq_true] at h
  rw [isComparableColumn, Bool.or_eq_true]
  exact h.1.imp_left And.right

variable (env config rows) in
-- The rows as the axis shows them, still in their own order.
def axisRows : Except Fault (List Row) :=
  if config.isTemporal then rows.mapM (Row.coerceTime env.dates config.mapping.x) else .ok rows

theorem preparedRows_eq_bind : RenderSpec.preparedRows env.dates config rows =
    config.axisRows env rows >>= fun shown => .ok (sortRows shown config.mapping.x) := by
  unfold RenderSpec.preparedRows axisRows
  split
  · rfl
  · rfl

-- The rows of a drawing are sorted before it is known that their labels can be written. That comes
-- to the same, as nothing is drawn of rows that cannot be put in order.
theorem preparedRows_eq_orderRows {spec : RenderSpec}
    (h : config.renderSpecOf env rows theme = .ok spec) :
    RenderSpec.preparedRows env.dates config rows =
      config.axisRows env rows >>= fun shown => orderRows shown config.mapping.x := by
  obtain ⟨colors, -, h⟩ := Fault.bind_eq_ok_iff.mp h
  obtain ⟨drawn, -, h⟩ := Fault.bind_eq_ok_iff.mp h
  obtain ⟨prepared, hprepared, h⟩ := Fault.bind_eq_ok_iff.mp h
  rw [preparedRows_eq_bind] at hprepared ⊢
  obtain ⟨shown, hshown, hsorted⟩ := Fault.bind_eq_ok_iff.mp hprepared
  cases hsorted
  have hwritten : config.areLabelsWritten (sortRows shown config.mapping.x) = true := by
    by_contra hwritten
    rw [if_neg hwritten] at h
    cases h
  have hcomparable := isComparableColumn_of_areLabelsWritten hwritten
  rw [isComparableColumn_of_perm (perm_sortRows shown _)] at hcomparable
  rw [hprepared, Fault.bind_of_eq_ok hshown, orderRows, if_pos hcomparable]

end ChartConfiguration

end TimePanel
