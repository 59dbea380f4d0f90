import Mathlib
import TimePanel.Chart.Grouping
import TimePanel.Chart.Order

/-! Sorting by keys that compare like the places on a line: nothing is lost, the places ascend, and
items at the same place keep their order. -/

namespace TimePanel

section Sorting

variable {α β : Type} [LinearOrder β] {key : α → SortKey} {place : α → β} {items : List α}

-- Whether keys compare like places.
def KeysFollow (key : α → SortKey) (place : α → β) (items : List α) : Prop :=
  ∀ a ∈ items, ∀ b ∈ items, (key a).le (key b) = decide (place a ≤ place b)

theorem KeysFollow.perm {others : List α} (h : KeysFollow key place items)
    (hperm : others.Perm items) : KeysFollow key place others :=
  fun a ha b hb => h a (hperm.mem_iff.mp ha) b (hperm.mem_iff.mp hb)

private theorem place_trans (a b c : α) (hab : decide (place a ≤ place b) = true)
    (hbc : decide (place b ≤ place c) = true) : decide (place a ≤ place c) = true := by
  simp only [decide_eq_true_eq] at *
  exact hab.trans hbc

private theorem place_total (a b : α) :
    (decide (place a ≤ place b) || decide (place b ≤ place a)) = true := by
  simp only [Bool.or_eq_true, decide_eq_true_eq]
  exact le_total (place a) (place b)

theorem sortByKey_eq_mergeSort (h : KeysFollow key place items) :
    sortByKey key items = items.mergeSort fun a b => decide (place a ≤ place b) := by
  let le (a b : α) : Bool := place a ≤ place b
  have hpairs : ∀ a ∈ items.map fun item => (key item, item),
      ∀ b ∈ items.map fun item => (key item, item), a.1.le b.1 = le a.2 b.2 := by
    simpa [KeysFollow] using h
  have hsorted := List.map_mergeSort (f := Prod.snd) (s := le) hpairs
  rw [sortByKey, hsorted, List.map_map]
  simp [Function.comp_def, le]

theorem perm_sortByKey (key : α → SortKey) (items : List α) :
    (sortByKey key items).Perm items := by
  have hperm := (List.mergeSort_perm (items.map fun item => (key item, item))
    fun a b => a.1.le b.1).map Prod.snd
  simpa [sortByKey, Function.comp_def] using hperm

theorem pairwise_sortByKey (h : KeysFollow key place items) :
    (sortByKey key items).Pairwise fun a b => place a ≤ place b := by
  rw [sortByKey_eq_mergeSort h]
  simpa only [decide_eq_true_eq] using List.pairwise_mergeSort place_trans place_total items

-- Those at one place are the same before and after, in the same order: they are a sublist of the
-- sorted items that leaves none of them out.
theorem filter_sortByKey (h : KeysFollow key place items) (spot : β) :
    (sortByKey key items).filter (place · = spot) = items.filter (place · = spot) := by
  have hlevel : (items.filter (place · = spot)).Pairwise
      fun a b => decide (place a ≤ place b) = true := by
    apply List.pairwise_of_forall_mem_list
    intro a ha b hb
    simp only [List.mem_filter, decide_eq_true_eq] at ha hb
    rw [decide_eq_true_eq, ha.2, hb.2]
  have hsublist := List.sublist_mergeSort place_trans place_total hlevel List.filter_sublist
  rw [← sortByKey_eq_mergeSort h] at hsublist
  have hkept := hsublist.filter (place · = spot)
  rw [List.filter_filter] at hkept
  simp only [Bool.and_self] at hkept
  exact (hkept.eq_of_length ((perm_sortByKey key items).filter _).length_eq.symm).symm

-- Items in the order of their places: each of them, ascending, and those at one place as before.
structure IsSortedBy (place : α → β) (items sorted : List α) : Prop where
  perm : sorted.Perm items
  ascending : sorted.Pairwise fun a b => place a ≤ place b
  ties_stay : ∀ spot, sorted.filter (place · = spot) = items.filter (place · = spot)

theorem KeysFollow.isSortedBy (h : KeysFollow key place items) :
    IsSortedBy place items (sortByKey key items) :=
  ⟨perm_sortByKey key items, pairwise_sortByKey h, filter_sortByKey h⟩

-- The places in order do not depend on the order of the items before.
theorem map_sortByKey_of_perm {others : List α} (h : KeysFollow key place items)
    (hperm : others.Perm items) :
    (sortByKey key others).map place = (sortByKey key items).map place := by
  have hitems := List.pairwise_map.mpr (pairwise_sortByKey h)
  have hothers := List.pairwise_map.mpr (pairwise_sortByKey (h.perm hperm))
  apply List.Perm.eq_of_pairwise _ hothers hitems
  · apply List.Perm.map
    exact (perm_sortByKey key others).trans (hperm.trans (perm_sortByKey key items).symm)
  · intro a b _ _ hab hba
    exact le_antisymm hab hba

-- Lists in ascending order are the same if they are at each place.
theorem eq_of_filter_place : ∀ {a b : List α}, (a.Pairwise fun x y => place x ≤ place y) →
    (b.Pairwise fun x y => place x ≤ place y) →
    (∀ spot, a.filter (place · = spot) = b.filter (place · = spot)) → a = b
  | [], [], _, _, _ => rfl
  | [], y :: b, _, _, h => by
      have hnil := h (place y)
      simp at hnil
  | x :: a, [], _, _, h => by
      have hnil := h (place x)
      simp at hnil
  | x :: a, y :: b, ha, hb, h => by
      obtain ⟨hx, ha'⟩ := List.pairwise_cons.mp ha
      obtain ⟨hy, hb'⟩ := List.pairwise_cons.mp hb
      have hxmem : x ∈ y :: b := by
        have hmem : x ∈ (y :: b).filter (place · = place x) := by simp [← h (place x)]
        exact List.mem_of_mem_filter hmem
      have hymem : y ∈ x :: a := by
        have hmem : y ∈ (x :: a).filter (place · = place y) := by simp [h (place y)]
        exact List.mem_of_mem_filter hmem
      have hplace : place x = place y := by
        refine le_antisymm ?_ ?_
        · rcases List.mem_cons.mp hymem with rfl | hmem
          · exact le_rfl
          · exact hx y hmem
        · rcases List.mem_cons.mp hxmem with rfl | hmem
          · exact le_rfl
          · exact hy x hmem
      have hhead := h (place x)
      rw [List.filter_cons_of_pos (by simp), List.filter_cons_of_pos (by simp [hplace])] at hhead
      obtain ⟨rfl, -⟩ := List.cons.inj hhead
      refine congrArg (x :: ·) (eq_of_filter_place ha' hb' fun spot => ?_)
      have hspot := h spot
      by_cases hplace : place x = spot
      · simpa [hplace] using hspot
      · simpa [hplace] using hspot

-- What is left out before sorting can be left out after it.
theorem sortByKey_filter (h : KeysFollow key place items) (p : α → Bool) :
    sortByKey key (items.filter p) = (sortByKey key items).filter p := by
  have hkept : KeysFollow key place (items.filter p) := fun a ha b hb =>
    h a (List.mem_of_mem_filter ha) b (List.mem_of_mem_filter hb)
  refine eq_of_filter_place (pairwise_sortByKey hkept) ((pairwise_sortByKey h).filter p)
    fun spot => ?_
  rw [filter_sortByKey hkept, List.filter_filter, List.filter_filter]
  simp only [Bool.and_comm]
  rw [← List.filter_filter, ← List.filter_filter, filter_sortByKey h]

end Sorting

section Last

variable {α : Type} {le : α → α → Bool} {last : α → Prop}

-- Merging leaves at the end what is at the end of both lists.
theorem pairwise_merge_last (hle : ∀ a b, last b → le a b = true)
    (hlt : ∀ a b, last a → ¬ last b → le a b = false) {xs ys : List α}
    (hxs : xs.Pairwise fun a b => last a → last b) (hys : ys.Pairwise fun a b => last a → last b) :
    (xs.merge ys le).Pairwise fun a b => last a → last b := by
  induction xs generalizing ys with
  | nil => simpa using hys
  | cons x xs ihx =>
      induction ys with
      | nil => simpa using hxs
      | cons y ys ihy =>
          obtain ⟨hx, hxs'⟩ := List.pairwise_cons.mp hxs
          obtain ⟨hy, hys'⟩ := List.pairwise_cons.mp hys
          rw [List.cons_merge_cons]
          split
          · next hfirst =>
            refine List.pairwise_cons.mpr ⟨fun z hz hlast => ?_, ihx hxs' hys⟩
            have hylast : last y := by
              by_contra hylast
              rw [hlt x y hlast hylast] at hfirst
              cases hfirst
            rcases List.mem_merge.mp hz with hz | hz
            · exact hx z hz hlast
            · rcases List.mem_cons.mp hz with rfl | hz
              · exact hylast
              · exact hy z hz hylast
          · next hfirst =>
            exact List.pairwise_cons.mpr
              ⟨fun z _ hlast => absurd (hle x y hlast) hfirst, ihy hys'⟩

theorem pairwise_mergeSort_last (hle : ∀ a b, last b → le a b = true)
    (hlt : ∀ a b, last a → ¬ last b → le a b = false) :
    ∀ items : List α, (items.mergeSort le).Pairwise fun a b => last a → last b
  | [] => by
      rw [List.mergeSort_nil]
      exact .nil
  | [a] => by
      rw [List.mergeSort_singleton]
      exact List.pairwise_singleton _ _
  | a :: b :: items => by
      rw [List.mergeSort]
      have hfirst : (List.MergeSort.Internal.splitInTwo ⟨a :: b :: items, rfl⟩).1.1.length <
          items.length + 1 + 1 := by
        simp [List.MergeSort.Internal.splitInTwo_fst]
        omega
      have hsecond : (List.MergeSort.Internal.splitInTwo ⟨a :: b :: items, rfl⟩).2.1.length <
          items.length + 1 + 1 := by
        simp [List.MergeSort.Internal.splitInTwo_snd]
        omega
      exact pairwise_merge_last hle hlt (pairwise_mergeSort_last hle hlt _)
        (pairwise_mergeSort_last hle hlt _)
termination_by items => items.length

theorem eq_append_of_pairwise_last {last : α → Bool} {items : List α}
    (h : items.Pairwise fun a b => last a = true → last b = true) :
    items = items.filter (!last ·) ++ items.filter last := by
  induction items with
  | nil => rfl
  | cons a rest ih =>
      obtain ⟨ha, hrest⟩ := List.pairwise_cons.mp h
      cases hlast : last a with
      | false => simpa [hlast] using ih hrest
      | true =>
          have hall : ∀ b ∈ rest, last b = true := fun b hb => ha b hb hlast
          have hnone : rest.filter (!last ·) = [] := by
            simpa using hall
          simp [hlast, hnone, List.filter_eq_self.mpr hall]

end Last

namespace Number

theorem lt_int (a b : Int) : lt (.int a) (.int b) = decide (a < b) := by
  simp [lt, extended?, Extended.lt]

end Number

-- The place of a row on a line of whole numbers. Rows without one come after all others.
def Row.place (column : String) (row : Row) : WithTop Int :=
  match row.get column with
  | .int n => n
  | _ => ⊤

namespace SortKey

theorem le_number_int (a b : Int) :
    le (.number (.int a)) (.number (.int b)) = decide (a ≤ b) := by
  rw [le, Number.lt_int, ← decide_not, decide_eq_decide, Int.not_lt]

theorem le_text (a b : String) : le (.text a) (.text b) = decide (a ≤ b) := rfl

end SortKey

-- Items without a key come last, whatever the other keys are.
theorem pairwise_last_sortByKey {α : Type} (key : α → SortKey) (items : List α) :
    (sortByKey key items).Pairwise fun a b => key a = .last → key b = .last := by
  have hle (a b : SortKey × α) (hb : b.1 = .last) : a.1.le b.1 = true := by
    rw [hb]
    cases a.1 <;> rfl
  have hlt (a b : SortKey × α) (ha : a.1 = .last) (hb : ¬ b.1 = .last) : a.1.le b.1 = false := by
    rw [ha]
    cases hkey : b.1 with
    | number n => rfl
    | text s => rfl
    | last => exact absurd hkey hb
  have hpairs := pairwise_mergeSort_last hle hlt (items.map fun item => (key item, item))
  have hkey {a : SortKey × α}
      (ha : a ∈ (items.map fun item => (key item, item)).mergeSort fun a b => a.1.le b.1) :
      key a.2 = a.1 := by
    obtain ⟨item, -, rfl⟩ := List.mem_map.mp (List.mem_mergeSort.mp ha)
    rfl
  rw [sortByKey, List.pairwise_map]
  refine hpairs.imp_of_mem fun ha hb hlast => ?_
  rwa [hkey ha, hkey hb]

section Rows

variable {column : String} {rows : List Row}

-- A column of whole numbers, some of which may be missing.
def IsCounted (column : String) (rows : List Row) : Prop :=
  ∀ row ∈ rows, row.get column = .null ∨ ∃ n, row.get column = .int n

theorem isNumericColumn_of_isCounted (h : IsCounted column rows) :
    isNumericColumn column rows = true := by
  simp only [isNumericColumn, List.all_eq_true]
  intro row hrow
  rcases h row hrow with hnull | ⟨n, hn⟩
  · rw [hnull]
    rfl
  · rw [hn]
    rfl

theorem keysFollow_place (h : IsCounted column rows) :
    KeysFollow (fun row : Row => SortKey.ofCell (isNumericColumn column rows) (row.get column))
      (Row.place column) rows := by
  intro a ha b hb
  rw [isNumericColumn_of_isCounted h]
  rcases h a ha with hanull | ⟨m, hm⟩
  · rcases h b hb with hbnull | ⟨n, hn⟩
    · simp [Row.place, hanull, hbnull, SortKey.ofCell, SortKey.le]
    · simp [Row.place, hanull, hn, SortKey.ofCell, SortKey.le, Cell.plainNumber?]
  · rcases h b hb with hbnull | ⟨n, hn⟩
    · simp [Row.place, hm, hbnull, SortKey.ofCell, SortKey.le]
    · simp [Row.place, hm, hn, SortKey.ofCell, SortKey.le_number_int, Cell.plainNumber?]

theorem perm_sortRows (rows : List Row) (column : String) : (sortRows rows column).Perm rows :=
  perm_sortByKey _ rows

theorem pairwise_sortRows (h : IsCounted column rows) :
    (sortRows rows column).Pairwise fun a b => a.place column ≤ b.place column :=
  pairwise_sortByKey (keysFollow_place h)

theorem filter_sortRows (h : IsCounted column rows) (spot : WithTop Int) :
    (sortRows rows column).filter (·.place column = spot) =
      rows.filter (·.place column = spot) :=
  filter_sortByKey (keysFollow_place h) spot

theorem isNumericColumn_of_perm {others : List Row} (h : others.Perm rows) :
    isNumericColumn column others = isNumericColumn column rows := by
  rw [Bool.eq_iff_iff]
  simp only [isNumericColumn, List.all_eq_true, h.mem_iff]

-- What only depends on the places comes in one order.
theorem map_sortRows_of_perm {γ : Type} {f : Row → γ} (g : WithTop Int → γ) {others : List Row}
    (h : IsCounted column rows) (hplace : ∀ row ∈ rows, f row = g (row.place column))
    (hperm : others.Perm rows) :
    (sortRows others column).map f = (sortRows rows column).map f := by
  have hplaces (sorted : List Row) (hsorted : sorted.Perm rows) :
      sorted.map f = (sorted.map (·.place column)).map g := by
    rw [List.map_map]
    exact List.map_congr_left fun row hrow => hplace row (hsorted.mem_iff.mp hrow)
  have hsame : (sortRows others column).map (·.place column) =
      (sortRows rows column).map (·.place column) := by
    unfold sortRows
    rw [isNumericColumn_of_perm hperm]
    exact map_sortByKey_of_perm (keysFollow_place h) hperm
  rw [hplaces _ ((perm_sortRows others column).trans hperm), hsame,
    hplaces _ (perm_sortRows rows column)]

-- A column of whole numbers and texts, of which none is missing.
def IsNamed (column : String) (rows : List Row) : Prop :=
  ∀ row ∈ rows, (∃ n, row.get column = .int n) ∨ ∃ s, row.get column = .text s

-- The labels come in one order, whether they are compared as numbers or as texts.
theorem map_label_sortRows_of_perm {others : List Row} (h : IsNamed column rows)
    (hperm : others.Perm rows) :
    (sortRows others column).map (·.label column) =
      (sortRows rows column).map (·.label column) := by
  cases hnumeric : isNumericColumn column rows with
  | true =>
      have hcount : ∀ row ∈ rows, ∃ n, row.get column = .int n := by
        intro row hrow
        rcases h row hrow with hn | ⟨s, hs⟩
        · exact hn
        · have hplain := List.all_eq_true.mp hnumeric row hrow
          simp [hs, Cell.isNull, Cell.plainNumber?] at hplain
      apply map_sortRows_of_perm (fun place => toString (place.untopD 0))
        (fun row hrow => .inr (hcount row hrow)) _ hperm
      intro row hrow
      obtain ⟨n, hn⟩ := hcount row hrow
      rw [Row.label, Row.place, hn]
      rfl
  | false =>
      have hkeys : KeysFollow (fun row : Row =>
          SortKey.ofCell (isNumericColumn column rows) (row.get column))
          (fun row : Row => row.label column) rows := by
        have hkey : ∀ row ∈ rows, SortKey.ofCell false (row.get column) =
            .text (row.label column) := by
          intro row hrow
          rcases h row hrow with ⟨n, hn⟩ | ⟨s, hs⟩
          · rw [Row.label, hn]
            rfl
          · rw [Row.label, hs]
            rfl
        intro a ha b hb
        dsimp only
        rw [hnumeric, hkey a ha, hkey b hb, SortKey.le_text]
      unfold sortRows
      rw [isNumericColumn_of_perm hperm]
      exact map_sortByKey_of_perm hkeys hperm

-- The rows that have a value in a column, and those that have none.
def valued (column : String) (rows : List Row) : List Row :=
  rows.filter fun row => !(row.get column).isNull

def unvalued (column : String) (rows : List Row) : List Row :=
  rows.filter fun row => (row.get column).isNull

theorem SortKey.ofCell_eq_last_iff {numeric : Bool} {cell : Cell} :
    ofCell numeric cell = .last ↔ cell.isNull = true := by
  unfold ofCell
  split
  · exact iff_of_true rfl rfl
  · next hnull =>
    refine iff_of_false ?_ ?_
    · split
      · cases numeric <;> exact nofun
      · exact nofun
    · cases cell with
      | null => exact absurd rfl hnull
      | _ => exact Bool.false_ne_true

-- Rows without a value come last.
theorem sortRows_eq_append (rows : List Row) (column : String) :
    sortRows rows column =
      valued column (sortRows rows column) ++ unvalued column (sortRows rows column) := by
  have hlast := pairwise_last_sortByKey
    (fun row : Row => .ofCell (isNumericColumn column rows) (row.get column)) rows
  simp only [SortKey.ofCell_eq_last_iff] at hlast
  exact eq_append_of_pairwise_last hlast

-- A column in which every number has a place among the others.
def IsOrdered (column : String) (rows : List Row) : Prop :=
  ∀ row ∈ rows, ∀ x, row.get column = .float x → x.isNaN = false

theorem isOrdered_valued : IsOrdered column (valued column rows) ↔ IsOrdered column rows := by
  constructor
  · intro h row hrow x hx
    refine h row (List.mem_filter.mpr ⟨hrow, ?_⟩) x hx
    rw [hx]
    rfl
  · intro h row hrow
    exact h row (List.mem_filter.mp hrow).1

-- The places of numbers on the line with its two ends.
def Extended.place : Extended → WithBot (WithTop ℚ)
  | .bottom => ⊥
  | .value q => ((q : WithTop ℚ) : WithBot (WithTop ℚ))
  | .top => ((⊤ : WithTop ℚ) : WithBot (WithTop ℚ))

theorem Extended.lt_eq (a b : Extended) : a.lt b = decide (a.place < b.place) := by
  cases a with
  | bottom => cases b <;> simp [Extended.lt, Extended.place]
  | value q =>
      cases b with
      | bottom => simp [Extended.lt, Extended.place]
      | value r => simp [Extended.lt, Extended.place]
      | top => exact (decide_eq_true (WithBot.coe_lt_coe.mpr (WithTop.coe_lt_top q))).symm
  | top => cases b <;> simp [Extended.lt, Extended.place]

theorem Number.exists_extended {n : Number} (h : n.isNaN = false) :
    ∃ e, n.extended? = some e := by
  cases n with
  | int n => exact ⟨_, rfl⟩
  | float x =>
      cases x with
      | nan => cases h
      | infinite negative => exact ⟨_, rfl⟩
      | finite negative significand exponent => exact ⟨_, rfl⟩

theorem Cell.exists_extended {cell : Cell} {n : Number} (hnumber : cell.plainNumber? = some n)
    (h : ∀ x, cell = .float x → x.isNaN = false) : ∃ e, n.extended? = some e := by
  apply Number.exists_extended
  cases cell with
  | int n =>
      obtain rfl := Option.some.inj hnumber
      rfl
  | float x =>
      obtain rfl := Option.some.inj hnumber
      exact h x rfl
  | _ => cases hnumber

theorem SortKey.le_number {m n : Number} {d e : Extended} (hd : m.extended? = some d)
    (he : n.extended? = some e) :
    le (.number m) (.number n) =
      decide ((d.place : WithTop (WithBot (WithTop ℚ))) ≤ e.place) := by
  simp only [le, Number.lt, hd, he, Extended.lt_eq, WithTop.coe_le_coe, ← decide_not, not_lt]

-- Where a row comes in a column of numbers, and where in one that holds other values as well.
def Row.numberPlace (column : String) (row : Row) : WithTop (WithBot (WithTop ℚ)) :=
  ((row.get column).plainNumber?.bind Number.extended?).elim ⊤ fun e => (e.place : WithTop _)

def Row.textPlace (column : String) (row : Row) : WithTop String :=
  if (row.get column).isNull then ⊤ else ((row.get column).display : String)

theorem keysFollow_numberPlace (h : IsOrdered column rows)
    (hnumeric : isNumericColumn column rows = true) :
    KeysFollow (fun row : Row => SortKey.ofCell (isNumericColumn column rows) (row.get column))
      (Row.numberPlace column) rows := by
  -- Each row has no value or a number, which has a place on the line.
  have hkey : ∀ row ∈ rows,
      SortKey.ofCell true (row.get column) = .last ∧ row.numberPlace column = ⊤ ∨
      ∃ n e, SortKey.ofCell true (row.get column) = .number n ∧ n.extended? = some e ∧
        row.numberPlace column = (e.place : WithTop _) := by
    intro row hrow
    have hnumber := List.all_eq_true.mp hnumeric row hrow
    rw [Bool.or_eq_true, Option.isSome_iff_exists] at hnumber
    cases hcell : row.get column with
    | null => exact .inl ⟨rfl, by rw [Row.numberPlace, hcell]; rfl⟩
    | _ =>
        right
        obtain ⟨n, hn⟩ := hnumber.resolve_left (by rw [hcell]; exact Bool.false_ne_true)
        obtain ⟨e, he⟩ := Cell.exists_extended hn (h row hrow)
        rw [hcell] at hn
        refine ⟨n, e, ?_, he, ?_⟩
        · simp [SortKey.ofCell, hn]
        · rw [Row.numberPlace, hcell, hn, Option.bind_some, he, Option.elim_some]
  intro a ha b hb
  rw [hnumeric]
  rcases hkey a ha with ⟨ha, hplace⟩ | ⟨m, d, ha, hd, hplace⟩
  · rcases hkey b hb with ⟨hb, hplace'⟩ | ⟨n, e, hb, he, hplace'⟩
    · simp only [ha, hb, hplace, hplace', SortKey.le, le_refl, decide_true]
    · simp [ha, hb, hplace, hplace', SortKey.le]
  · rcases hkey b hb with ⟨hb, hplace'⟩ | ⟨n, e, hb, he, hplace'⟩
    · simp [ha, hb, hplace, hplace', SortKey.le]
    · simp only [ha, hb, hplace, hplace', SortKey.le_number hd he]

theorem keysFollow_textPlace (hnumeric : isNumericColumn column rows = false) :
    KeysFollow (fun row : Row => SortKey.ofCell (isNumericColumn column rows) (row.get column))
      (Row.textPlace column) rows := by
  have hkey (cell : Cell) : SortKey.ofCell false cell =
      if cell.isNull then .last else .text cell.display := by
    cases cell <;> simp [SortKey.ofCell, Cell.isNull, Cell.plainNumber?]
  intro a _ b _
  rw [hnumeric]
  dsimp only
  rw [hkey, hkey, Row.textPlace, Row.textPlace]
  cases (a.get column).isNull <;> cases (b.get column).isNull <;> simp [SortKey.le]

theorem isNumericColumn_valued : isNumericColumn column (valued column rows) =
    isNumericColumn column rows := by
  rw [isNumericColumn, isNumericColumn, valued, List.all_filter]
  congr 1
  funext row
  cases (row.get column).isNull <;> simp

-- Where every number has its place the rows with a value are sorted as if there were no others.
theorem sortRows_valued (h : IsOrdered column rows) :
    sortRows (valued column rows) column = valued column (sortRows rows column) := by
  unfold sortRows
  rw [isNumericColumn_valued]
  cases hnumeric : isNumericColumn column rows with
  | true =>
      have hkeys := keysFollow_numberPlace h hnumeric
      rw [hnumeric] at hkeys
      exact sortByKey_filter hkeys _
  | false =>
      have hkeys := keysFollow_textPlace hnumeric
      rw [hnumeric] at hkeys
      exact sortByKey_filter hkeys _

-- A column of numbers, some of which may be missing.
def HoldsNumbers (column : String) (rows : List Row) : Prop :=
  ∀ row ∈ rows, row.get column = .null ∨ (∃ n, row.get column = .int n) ∨
    ∃ x, row.get column = .float x

theorem isNumericColumn_iff : isNumericColumn column rows = true ↔ HoldsNumbers column rows := by
  simp only [isNumericColumn, HoldsNumbers, List.all_eq_true]
  refine forall₂_congr fun row _ => ?_
  cases row.get column <;> simp [Cell.isNull, Cell.plainNumber?]

-- Rows in the order of a column: by number if it holds numbers only, else by text. Those without a
-- value come last. Among numbers of which one is none the order is left open.
structure IsRowOrder (column : String) (rows sorted : List Row) : Prop where
  perm : sorted.Perm rows
  missing_last : sorted = valued column sorted ++ unvalued column sorted
  by_number : HoldsNumbers column rows → IsOrdered column rows →
    IsSortedBy (Row.numberPlace column) rows sorted
  by_text : ¬ HoldsNumbers column rows → IsSortedBy (Row.textPlace column) rows sorted

theorem isRowOrder_sortRows (rows : List Row) (column : String) :
    IsRowOrder column rows (sortRows rows column) where
  perm := perm_sortRows rows column
  missing_last := sortRows_eq_append rows column
  by_number hnumbers hordered :=
    (keysFollow_numberPlace hordered (isNumericColumn_iff.mpr hnumbers)).isSortedBy
  by_text hmixed := by
    rw [← isNumericColumn_iff, Bool.not_eq_true] at hmixed
    exact (keysFollow_textPlace hmixed).isSortedBy

end Rows

section Labels

variable {labels : List String}

-- The place of a label among numbers.
def labelPlace (label : String) : WithTop (WithBot (WithTop ℚ)) :=
  ((Literal.number? label.toList).bind Number.extended?).elim ⊤ fun e => (e.place : WithTop _)

-- Labels in order: by number if all of them read as numbers, else by text. Among numbers of which
-- one is none the order is left open.
structure IsLabelOrder (labels sorted : List String) : Prop where
  perm : sorted.Perm labels
  by_number : (∀ label ∈ labels, ∃ n, Literal.number? label.toList = some n ∧ n.isNaN = false) →
    IsSortedBy labelPlace labels sorted
  by_text : (∃ label ∈ labels, Literal.number? label.toList = none) → IsSortedBy id labels sorted

theorem keysFollow_labelPlace
    (h : ∀ label ∈ labels, ∃ n, Literal.number? label.toList = some n ∧ n.isNaN = false) :
    KeysFollow (fun label => (Literal.number? label.toList).elim .last SortKey.number) labelPlace
      labels := by
  intro a ha b hb
  obtain ⟨m, hm, hplaced⟩ := h a ha
  obtain ⟨n, hn, hplaced'⟩ := h b hb
  obtain ⟨d, hd⟩ := Number.exists_extended hplaced
  obtain ⟨e, he⟩ := Number.exists_extended hplaced'
  simp only [labelPlace, hm, hn, Option.elim_some, Option.bind_some, hd, he,
    SortKey.le_number hd he]

theorem perm_sortCategories (labels : List String) : (sortCategories labels).Perm labels := by
  dsimp only [sortCategories]
  split
  · exact perm_sortByKey _ labels
  · exact perm_sortByKey _ labels

theorem isLabelOrder_sortCategories (labels : List String) :
    IsLabelOrder labels (sortCategories labels) where
  perm := perm_sortCategories labels
  by_number h := by
    have hall : (labels.all fun label => (Literal.number? label.toList).isSome) = true := by
      rw [List.all_eq_true]
      intro label hlabel
      obtain ⟨n, hn, -⟩ := h label hlabel
      rw [hn]
      rfl
    dsimp only [sortCategories]
    rw [if_pos hall]
    exact (keysFollow_labelPlace h).isSortedBy
  by_text h := by
    obtain ⟨label, hlabel, hnone⟩ := h
    have hall : ¬ (labels.all fun label => (Literal.number? label.toList).isSome) = true := by
      intro hall
      have hsome := List.all_eq_true.mp hall label hlabel
      rw [hnone] at hsome
      cases hsome
    have hkeys : KeysFollow SortKey.text id labels := fun a _ b _ => SortKey.le_text a b
    dsimp only [sortCategories]
    rw [if_neg hall]
    exact hkeys.isSortedBy

end Labels

end TimePanel
