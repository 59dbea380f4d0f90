import TimePanel.Chart.Coercion
import TimePanel.Chart.Configuration
import TimePanel.Proofs.Fault

/-! Rows as they are drawn: their x is coerced where the axis shows time, and all else stays. -/

namespace TimePanel

namespace Fault

-- Computations that all succeed are one that does.
theorem mapM_eq_ok {α β : Type} {f : α → Except Fault β} {g : α → β} {items : List α}
    (h : ∀ a ∈ items, f a = .ok (g a)) : items.mapM f = .ok (items.map g) := by
  induction items with
  | nil => rfl
  | cons a rest ih =>
      rw [List.mapM_cons, h a List.mem_cons_self,
        ih fun b hb => h b (List.mem_cons_of_mem _ hb)]
      rfl

end Fault

namespace Row

variable (row : Row) (name : String) (cell : Cell)

theorem lookup_map (change : String → Cell → Cell) (other : String) :
    (row.map fun (key, old) => (key, change key old)).lookup other =
      (row.lookup other).map (change other) := by
  induction row with
  | nil => rfl
  | cons entry rest ih =>
      obtain ⟨key, old⟩ := entry
      rw [List.map_cons, List.lookup_cons, List.lookup_cons, ih]
      cases hkey : other == key with
      | true =>
          obtain rfl := eq_of_beq hkey
          rfl
      | false => rfl

theorem get_set_self : (row.set name cell).get name = cell := by
  unfold set
  split
  · next hhas =>
    obtain ⟨old, hold⟩ := Option.isSome_iff_exists.mp hhas
    rw [get, lookup_map row (fun key old => if key = name then cell else old), hold]
    simp
  · next hhas =>
    have hnone : row.lookup name = none := by
      rwa [has, Option.not_isSome_iff_eq_none] at hhas
    simp [get, List.lookup_append, hnone]

theorem get_set_of_ne {other : String} (h : other ≠ name) :
    (row.set name cell).get other = row.get other := by
  unfold set
  split
  · rw [get, lookup_map row (fun key old => if key = name then cell else old), get]
    simp [h]
  · have hother : (other == name) = false := by simpa using h
    simp [get, List.lookup_append, List.lookup_cons, hother]

end Row

namespace Epoch

-- A whole number in milliseconds, if it may count time.
def millis (n : Int) : Int :=
  if isPlausible (.int n) then n * (unitOf (.int n)).nanos / 1000000 else n

end Epoch

-- A cell on an axis of time, if it holds a whole number or nothing.
def Cell.onTimeAxis : Cell → Cell
  | .int n => .int (Epoch.millis n)
  | cell => cell

theorem Cell.coerceTime_eq {cell : Cell} (dates : DateReader)
    (h : cell = .null ∨ ∃ n, cell = .int n) : cell.coerceTime dates = .ok cell.onTimeAxis := by
  rcases h with rfl | ⟨n, rfl⟩
  · rfl
  · simp only [coerceTime, number?, onTimeAxis, Epoch.millis]
    split
    · rfl
    · rfl

namespace ChartConfiguration

variable (config : ChartConfiguration)

-- A row with its x as the axis shows it.
def drawn (row : Row) : Row :=
  if config.isTemporal then row.set config.mapping.x (row.get config.mapping.x).onTimeAxis else row

variable {config} {row : Row}

theorem get_drawn (h : config.isTemporal = true) :
    (config.drawn row).get config.mapping.x = (row.get config.mapping.x).onTimeAxis := by
  rw [drawn, if_pos h, Row.get_set_self]

theorem get_drawn_int (h : config.isTemporal = true) {n : Int}
    (hn : row.get config.mapping.x = .int n) :
    (config.drawn row).get config.mapping.x = .int (Epoch.millis n) := by
  rw [get_drawn h, hn]
  rfl

theorem get_drawn_of_ne {column : String} (h : column ≠ config.mapping.x) :
    (config.drawn row).get column = row.get column := by
  unfold drawn
  split
  · exact row.get_set_of_ne _ _ h
  · rfl

end ChartConfiguration

end TimePanel
