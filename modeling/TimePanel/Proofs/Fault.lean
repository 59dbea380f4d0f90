import TimePanel.Fault

/-! Computations that can fail, taken apart where they succeed, and those that only fail because of
the values that they are given. -/

namespace TimePanel.Fault

variable {α β : Type}

theorem bind_eq_ok_iff {first : Except Fault α} {next : α → Except Fault β} {result : β} :
    (first >>= next) = .ok result ↔ ∃ value, first = .ok value ∧ next value = .ok result := by
  cases first with
  | error fault => simp [bind, Except.bind]
  | ok value => simp [bind, Except.bind]

theorem bind_of_eq_ok {first : Except Fault α} {value : α} (h : first = .ok value)
    (next : α → Except Fault β) : (first >>= next) = next value := by
  rw [h]
  rfl

theorem bind_pure_eq_error_iff {first : Except Fault α} {f : α → β} {fault : Fault} :
    (first >>= fun value => pure (f value)) = .error fault ↔ first = .error fault := by
  cases first with
  | error other => simp [bind, Except.bind]
  | ok value => simp [bind, Except.bind, pure, Except.pure]

theorem map_eq_ok_iff {first : Except Fault α} {f : α → β} {result : β} :
    first.map f = .ok result ↔ ∃ value, first = .ok value ∧ f value = result := by
  cases first with
  | error fault => simp [Except.map]
  | ok value => simp [Except.map]

theorem eq_error_of_map {first : Except Fault α} {f : α → β} {fault : Fault}
    (h : first.map f = .error fault) : first = .error fault := by
  cases first with
  | error other =>
      cases h
      rfl
  | ok value => cases h

theorem pure_eq_ok_iff {value result : α} :
    (pure value : Except Fault α) = .ok result ↔ value = result := by
  simp [pure, Except.pure]

-- A computation over a list succeeds exactly if it does for every item.
theorem exists_mapM_iff {f : α → Except Fault β} {items : List α} :
    (∃ results, items.mapM f = .ok results) ↔ ∀ a ∈ items, ∃ result, f a = .ok result := by
  induction items with
  | nil => simp [pure, Except.pure]
  | cons a rest ih =>
      rw [List.forall_mem_cons, ← ih]
      simp only [List.mapM_cons, bind_eq_ok_iff, pure_eq_ok_iff]
      constructor
      · rintro ⟨-, result, hresult, results, hresults, -⟩
        exact ⟨⟨result, hresult⟩, results, hresults⟩
      · rintro ⟨⟨result, hresult⟩, results, hresults⟩
        exact ⟨_, result, hresult, results, hresults, rfl⟩

-- The results are those of the items.
theorem mem_iff_of_mapM {f : α → Except Fault β} {items : List α} {results : List β}
    (h : items.mapM f = .ok results) {b : β} : b ∈ results ↔ ∃ a ∈ items, f a = .ok b := by
  induction items generalizing results with
  | nil =>
      obtain rfl := pure_eq_ok_iff.mp h
      simp
  | cons a rest ih =>
      rw [List.mapM_cons, bind_eq_ok_iff] at h
      obtain ⟨first, hfirst, h⟩ := h
      obtain ⟨others, hothers, h⟩ := bind_eq_ok_iff.mp h
      obtain rfl := pure_eq_ok_iff.mp h
      simp [ih hothers, hfirst, eq_comm]

-- A test that a result passes shows that there is one.
theorem exists_ok_of_any {ε : Type} (outcome : Except ε α) (test : α → Bool)
    (h : outcome.toOption.any test = true) : ∃ value, outcome = .ok value ∧ test value = true := by
  cases outcome with
  | error fault => cases h
  | ok value => exact ⟨value, rfl, h⟩

def Fails (outcome : Except Fault α) : Prop := ∃ fault, outcome = .error fault

theorem fails_error (fault : Fault) : Fails (.error fault : Except Fault α) := ⟨fault, rfl⟩

theorem not_fails_ok (value : α) : ¬ Fails (.ok value) := nofun

theorem not_fails_pure (value : α) : ¬ Fails (pure value) := nofun

theorem not_fails_iff {outcome : Except Fault α} :
    ¬ Fails outcome ↔ ∃ value, outcome = .ok value := by
  cases outcome with
  | error fault => simp [fails_error]
  | ok value => simp [not_fails_ok]

-- A computation in two steps fails in the first one or, after it, in the second.
theorem fails_bind_iff {first : Except Fault α} {next : α → Except Fault β} :
    Fails (first >>= next) ↔ Fails first ∨ ∃ value, first = .ok value ∧ Fails (next value) := by
  cases first with
  | error fault => simp [fails_error, bind, Except.bind]
  | ok value => simp [not_fails_ok, bind, Except.bind]

-- The second step may fail whatever the result of the first one is.
theorem fails_bind_iff_or {first : Except Fault α} {next : α → Except Fault β} {p : Prop}
    (h : ∀ value, Fails (next value) ↔ p) : Fails (first >>= next) ↔ Fails first ∨ p := by
  cases first with
  | error fault => simp [fails_error, bind, Except.bind]
  | ok value => simp [not_fails_ok, bind, Except.bind, h]

theorem fails_bind_iff_of_total {first : Except Fault α} {next : α → Except Fault β}
    (h : ∀ value, ¬ Fails (next value)) : Fails (first >>= next) ↔ Fails first := by
  simp [fails_bind_iff, h]

theorem fails_map_iff {outcome : Except Fault α} {f : α → β} :
    Fails (outcome.map f) ↔ Fails outcome := by
  cases outcome with
  | error fault => simp [fails_error, Except.map]
  | ok value => simp [not_fails_ok, Except.map]

theorem fails_mapM_iff {f : α → Except Fault β} {items : List α} :
    Fails (items.mapM f) ↔ ∃ a ∈ items, Fails (f a) := by
  have hall : ¬ Fails (items.mapM f) ↔ ∀ a ∈ items, ¬ Fails (f a) := by
    simpa only [not_fails_iff] using exists_mapM_iff
  constructor
  · intro hfails
    apply Classical.byContradiction
    intro hnone
    exact hall.mpr (fun a ha h => hnone ⟨a, ha, h⟩) hfails
  · rintro ⟨a, ha, hfails⟩
    apply Classical.byContradiction
    intro hnone
    exact hall.mp hnone a ha hfails

-- Whether all faults of an outcome lie in the value at hand.
def OnlyOfValue (outcome : Except Fault α) : Prop :=
  ∀ fault, outcome = .error fault → fault.isOfValue = true

theorem onlyOfValue_ok (value : α) : OnlyOfValue (.ok value) := by
  intro fault h
  cases h

theorem onlyOfValue_error {fault : Fault} (h : fault.isOfValue = true) :
    OnlyOfValue (.error fault : Except Fault α) := by
  intro other hother
  cases hother
  exact h

theorem OnlyOfValue.bind {first : Except Fault α} {next : α → Except Fault β}
    (hfirst : OnlyOfValue first) (hnext : ∀ value, OnlyOfValue (next value)) :
    OnlyOfValue (first >>= next) := by
  cases first with
  | error fault => exact onlyOfValue_error (hfirst fault rfl)
  | ok value => exact hnext value

theorem OnlyOfValue.map {outcome : Except Fault α} (h : OnlyOfValue outcome) (f : α → β) :
    OnlyOfValue (outcome.map f) := by
  cases outcome with
  | error fault => exact onlyOfValue_error (h fault rfl)
  | ok value => exact onlyOfValue_ok (f value)

theorem onlyOfValue_elim {fault : Fault} (h : fault.isOfValue = true) (found : Option α) :
    OnlyOfValue (found.elim (.error fault) .ok) := by
  cases found with
  | none => exact onlyOfValue_error h
  | some value => exact onlyOfValue_ok value

end TimePanel.Fault
