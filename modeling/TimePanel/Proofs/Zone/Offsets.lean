import TimePanel.Instant
import TimePanel.Zone.Registry

/-! How far the clocks of a zone are from universal time. -/

namespace TimePanel

namespace Zone

-- Whether clocks are always less than a day from universal time.
structure IsWithinDay (zone : Zone) : Prop where
  offsetAt : ∀ second, (zone.offsetAt second).natAbs < Instant.secondsPerDay
  wallOffset : ∀ second repeated, (zone.wallOffset second repeated).natAbs < Instant.secondsPerDay

theorem isWithinDay_fixed {offset : Int} (h : offset.natAbs < Instant.secondsPerDay)
    (name : String) : (fixed name offset).IsWithinDay :=
  ⟨fun _ => h, fun _ _ => h⟩

end Zone

namespace SummerRule

variable (rule : SummerRule) (second : Int)

def offsets : List Int := [rule.standard, rule.summer]

theorem place_mem : (rule.place second).1 ∈ rule.offsets := by
  unfold place offsets
  dsimp only
  split
  · exact List.mem_cons_of_mem _ List.mem_cons_self
  · exact List.mem_cons_self

theorem wallOffset_mem (repeated : Bool) : rule.wallOffset second repeated ∈ rule.offsets := by
  unfold wallOffset offsets
  dsimp only
  generalize (if repeated = decide (0 ≤ rule.gain) then _ else _ : Int × Int) = season
  split
  · exact List.mem_cons_of_mem _ List.mem_cons_self
  · exact List.mem_cons_self

end SummerRule

def Outlook.offsets : Outlook → List Int
  | .constant offset => [offset]
  | .yearly rule => rule.offsets

namespace ZoneHistory

variable (history : ZoneHistory)

-- The offsets that are listed or follow from the outlook.
def offsets : List Int :=
  history.initial :: history.outlook.offsets ++ history.changes.map (·.offset)

theorem mem_of_lastReached {reached : Int → Change → Bool} {initial before : Int}
    {changes : List Change} {change : Change}
    (h : lastReached reached initial changes = some (before, change)) : change ∈ changes := by
  induction changes generalizing initial with
  | nil => cases h
  | cons first rest ih =>
      unfold lastReached at h
      split at h
      · cases hrest : lastReached reached first.offset rest with
        | none =>
            simp only [hrest, Option.getD_none, Option.some.injEq, Prod.mk.injEq] at h
            exact h.2 ▸ List.mem_cons_self
        | some found =>
            simp only [hrest, Option.getD_some, Option.some.injEq] at h
            exact List.mem_cons_of_mem _ (ih (h ▸ hrest))
      · cases h

theorem initial_mem : history.initial ∈ history.offsets := by simp [offsets]

theorem offset_mem {reached : Int → Change → Bool} {before : Int} {change : Change}
    (h : lastReached reached history.initial history.changes = some (before, change)) :
    change.offset ∈ history.offsets := by
  have hmem := List.mem_map_of_mem (f := (·.offset)) (mem_of_lastReached h)
  simp [offsets, hmem]

theorem outlook_mem {offset : Int} (h : offset ∈ history.outlook.offsets) :
    offset ∈ history.offsets := by simp [offsets, h]

theorem place_mem (second : Int) : (history.place second).1 ∈ history.offsets := by
  unfold place
  split
  · next rule houtlook _ =>
    apply outlook_mem
    rw [houtlook]
    exact rule.place_mem second
  · split
    · next before change hreached => exact history.offset_mem hreached
    · split
      · next offset _ houtlook =>
        apply outlook_mem
        rw [houtlook]
        exact List.mem_cons_self
      · exact history.initial_mem

theorem wallOffset_mem (second : Int) (repeated : Bool) :
    history.wallOffset second repeated ∈ history.offsets := by
  unfold wallOffset
  split
  · next rule houtlook _ =>
    apply outlook_mem
    rw [houtlook]
    exact rule.wallOffset_mem second repeated
  · split
    · next before change hreached => exact history.offset_mem hreached
    · split
      · next offset _ houtlook =>
        apply outlook_mem
        rw [houtlook]
        exact List.mem_cons_self
      · exact history.initial_mem

theorem isWithinDay_zone {history : ZoneHistory} (name : String)
    (h : ∀ offset ∈ history.offsets, offset.natAbs < Instant.secondsPerDay) :
    (history.zone name).IsWithinDay :=
  ⟨fun second => h _ (history.place_mem second),
    fun second repeated => h _ (history.wallOffset_mem second repeated)⟩

end ZoneHistory

namespace Zone

theorem mem_of_lookup {α : Type} {name : String} {value : α} {entries : List (String × α)}
    (h : entries.lookup name = some value) : (name, value) ∈ entries := by
  obtain ⟨before, after, rfl, -⟩ := List.lookup_eq_some_iff.mp h
  simp

-- A zone that has a name has one fixed offset, or is one of the places.
theorem of_named {name : String} {zone : Zone} (h : named? name = some zone) :
    (∃ offset : Int, offset.natAbs < Instant.secondsPerDay ∧ zone = fixed name offset) ∨
      ∃ history, (name, history) ∈ places ∧
        (∀ offset ∈ history.offsets, offset.natAbs < Instant.secondsPerDay) ∧
        zone = history.zone name := by
  have hplaces : ∀ place ∈ places, ∀ offset ∈ place.2.offsets,
      offset.natAbs < Instant.secondsPerDay := by decide +kernel
  have hhours : ∀ entry ∈ byHours, entry.2.natAbs < Instant.secondsPerDay := by decide +kernel
  unfold named? at h
  split at h
  · cases h
    exact .inl ⟨0, by decide, rfl⟩
  · split at h
    · next history hplace =>
      cases h
      have hmem := mem_of_lookup hplace
      exact .inr ⟨history, hmem, hplaces _ hmem, rfl⟩
    · obtain ⟨offset, hoffset, rfl⟩ := Option.map_eq_some_iff.mp h
      exact .inl ⟨offset, hhours (name, offset) (mem_of_lookup hoffset), rfl⟩

theorem isWithinDay_of_named {name : String} {zone : Zone} (h : named? name = some zone) :
    zone.IsWithinDay := by
  rcases of_named h with ⟨offset, hoffset, rfl⟩ | ⟨history, -, hoffsets, rfl⟩
  · exact isWithinDay_fixed hoffset name
  · exact ZoneHistory.isWithinDay_zone name hoffsets

end Zone

end TimePanel
