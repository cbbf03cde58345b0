import Mathlib.Init

/-! Loops that may leave early. A step answers the next state or the value the
whole computation returns with; a rule for such a loop speaks about both. -/
namespace LiveRoute.EarlyExit
open List

variable {ε σ α : Type}

theorem ite_error_eq_ok {condition : Prop} [Decidable condition] {error : ε} {value : α}
    {result : Except ε α} :
    (if condition then .error error else result) = .ok value ↔ ¬condition ∧ result = .ok value := by
  by_cases h : condition <;> simp [h]

theorem map_eq_ok {β : Type} {f : α → β} {result : Except ε α} {value : β} :
    result.map f = .ok value ↔ ∃ found, result = .ok found ∧ f found = value := by
  cases result <;> simp [Except.map]

theorem bind_eq_ok {β : Type} {result : Except ε α} {next : α → Except ε β} {value : β} :
    (result >>= next) = .ok value ↔ ∃ found, result = .ok found ∧ next found = .ok value := by
  cases result <;> simp [bind, Except.bind]

theorem map_eq_error {β : Type} {f : α → β} {result : Except ε α} :
    result.map f = .error error ↔ result = .error error := by
  cases result <;> simp [Except.map]

theorem mapM_ok {β : Type} {f : α → Except ε β} {items : List α} {values : List β}
    (h : items.mapM f = .ok values) : (∀ item ∈ items, ∃ value, f item = .ok value) ∧
      ∀ value, value ∈ values ↔ ∃ item ∈ items, f item = .ok value := by
  induction items generalizing values with
  | nil =>
    cases h
    simp
  | cons _ _ ih =>
    rw [mapM_cons] at h
    obtain ⟨first, hfirst, h⟩ := bind_eq_ok.mp h
    obtain ⟨others, hothers, h⟩ := bind_eq_ok.mp h
    cases h
    have hrest := ih hothers
    exact ⟨forall_mem_cons.mpr ⟨⟨first, hfirst⟩, hrest.1⟩, by simp [hrest.2, hfirst, eq_comm]⟩

theorem filterM_ok {f : α → Except ε Bool} {items kept : List α} (h : items.filterM f = .ok kept) :
    ∀ item, item ∈ kept ↔ item ∈ items ∧ f item = .ok true := by
  have haux : ∀ items acc result, filterAuxM f items acc = .ok result →
      ∀ item, item ∈ result ↔ item ∈ acc ∨ item ∈ items ∧ f item = .ok true := by
    intro items
    induction items with
    | nil =>
      intro acc result h item
      cases h
      simp
    | cons first _ ih =>
      intro acc result h item
      obtain ⟨keep, hkeep, h⟩ := bind_eq_ok.mp h
      rw [ih _ _ h item]
      by_cases hfirst : item = first
      · cases keep <;> simp [hfirst, hkeep]
      · cases keep <;> simp [hfirst]
  obtain ⟨result, hresult, h⟩ := bind_eq_ok.mp h
  cases h
  intro item
  rw [mem_reverse, haux items [] result hresult item]
  simp

/-- Every way out is described: `continues` by the state reached, `exits` by
the value returned. -/
def Ends (continues : σ → Prop) (exits : ε → Prop) : Except ε σ → Prop
  | .ok state => continues state
  | .error value => exits value

theorem Ends.mono {continues continues' : σ → Prop} {exits exits' : ε → Prop}
    (h : Ends continues exits result)
    (hcontinues : ∀ state, continues state → continues' state)
    (hexits : ∀ value, exits value → exits' value) : Ends continues' exits' result := by
  cases result with
  | ok state => exact hcontinues state h
  | error value => exact hexits value h

theorem Ends.and {continues continues' : σ → Prop} {exits exits' : ε → Prop}
    (h : Ends continues exits result) (h' : Ends continues' exits' result) :
    Ends (fun state => continues state ∧ continues' state)
      (fun value => exits value ∧ exits' value) result := by
  cases result with
  | ok => exact ⟨h, h'⟩
  | error => exact ⟨h, h'⟩

/-- Loop rule with the items handled so far in the invariant. -/
theorem Ends.foldlM (invariant : List α → σ → Prop) {step : σ → α → Except ε σ} {exits : ε → Prop}
    (hstart : invariant [] state)
    (hstep : ∀ handled item state, item ∈ items → invariant handled state →
      Ends (invariant (handled ++ [item])) exits (step state item)) :
    Ends (invariant items) exits (items.foldlM step state) := by
  have hgeneral : ∀ rest handled state, (∀ item ∈ rest, item ∈ items) → invariant handled state →
      Ends (invariant (handled ++ rest)) exits (rest.foldlM step state) := by
    intro rest
    induction rest with
    | nil =>
      intro handled state _ h
      rw [append_nil]
      exact h
    | cons item _ ih =>
      intro handled state hitems h
      have hfirst := hstep handled item state (hitems item mem_cons_self) h
      rw [foldlM_cons]
      cases hres : step state item with
      | error =>
        rw [hres] at hfirst
        exact hfirst
      | ok next =>
        rw [hres] at hfirst
        rw [append_cons]
        exact ih (handled ++ [item]) next
          (fun other hother => hitems other (mem_cons_of_mem _ hother)) hfirst
  exact hgeneral items [] state (fun _ h => h) hstart

/-- Two computations that end in the same way, in related states or with one
returned value. -/
def Simulates {τ : Type} (rel : σ → τ → Prop) : Except ε σ → Except ε τ → Prop
  | .ok state, .ok abstract => rel state abstract
  | .error value, .error other => value = other
  | _, _ => False

theorem Simulates.mono {τ : Type} {rel rel' : σ → τ → Prop} {result : Except ε σ}
    {abstract : Except ε τ} (h : Simulates rel result abstract)
    (hrel : ∀ state abstract, rel state abstract → rel' state abstract) :
    Simulates rel' result abstract := by
  cases result with
  | ok state =>
    cases abstract with
    | ok abstract => exact hrel state abstract h
    | error => exact h
  | error =>
    cases abstract with
    | ok => exact h
    | error => exact h

theorem Simulates.and_ends {τ : Type} {rel : σ → τ → Prop} {result : Except ε σ}
    {abstract : Except ε τ} {continues : τ → Prop} {exits : ε → Prop}
    (h : Simulates rel result abstract) (hends : Ends continues exits abstract) :
    Simulates (fun state abstract => rel state abstract ∧ continues abstract) result abstract := by
  cases result with
  | ok =>
    cases abstract with
    | ok => exact ⟨h, hends⟩
    | error => exact h
  | error =>
    cases abstract with
    | ok => exact h
    | error => exact h

theorem Simulates.foldlM {τ : Type} {rel : σ → τ → Prop} {step : σ → α → Except ε σ}
    {abstractStep : τ → α → Except ε τ} {items : List α} {state : σ} {abstract : τ}
    (hstart : rel state abstract)
    (hstep : ∀ item ∈ items, ∀ state abstract, rel state abstract →
      Simulates rel (step state item) (abstractStep abstract item)) :
    Simulates rel (items.foldlM step state) (items.foldlM abstractStep abstract) := by
  induction items generalizing state abstract with
  | nil => exact hstart
  | cons item _ ih =>
    have hfirst := hstep item mem_cons_self state abstract hstart
    rw [foldlM_cons, foldlM_cons]
    cases hstate : step state item with
    | error =>
      cases habstract : abstractStep abstract item with
      | error =>
        rw [hstate, habstract] at hfirst
        exact hfirst
      | ok =>
        rw [hstate, habstract] at hfirst
        cases hfirst
    | ok =>
      cases habstract : abstractStep abstract item with
      | error =>
        rw [hstate, habstract] at hfirst
        cases hfirst
      | ok =>
        rw [hstate, habstract] at hfirst
        exact ih hfirst fun item hitem => hstep item (mem_cons_of_mem _ hitem)

end LiveRoute.EarlyExit
