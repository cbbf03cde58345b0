import Mathlib.Data.List.Infix

/-! Parent-linked search paths and incumbents. A search that expands many
prefixes stores one node per decision and a link to the node before it; nodes
are only ever appended, so a path found once stays readable. -/
namespace LiveRoute.Search

variable {δ : Type}

structure PathNode (δ : Type) where
  parent : Option Nat
  decision : δ
deriving DecidableEq

/-- Reads `depth` decisions back along the parent links, oldest first. -/
def walk (nodes : List (PathNode δ)) : Option Nat → Nat → List δ
  | _, 0 => []
  | none, _ + 1 => []
  | some index, depth + 1 =>
    match nodes[index]? with
    | none => []
    | some node => walk nodes node.parent depth ++ [node.decision]

/-- Following the links from `position` passes exactly through `path`. -/
inductive Reaches (nodes : List (PathNode δ)) : Option Nat → List δ → Prop
  | root : Reaches nodes none []
  | step {index : Nat} {node : PathNode δ} {path : List δ} :
      nodes[index]? = some node → Reaches nodes node.parent path →
      Reaches nodes (some index) (path ++ [node.decision])

theorem Reaches.extend (h : Reaches nodes position path) (hgrow : nodes <+: more) :
    Reaches more position path := by
  induction h with
  | root => exact Reaches.root
  | step hnode _ ih =>
    obtain ⟨suffix, rfl⟩ := hgrow
    have hbound := (List.getElem?_eq_some_iff.mp hnode).1
    exact Reaches.step (by rw [List.getElem?_append_left hbound]; exact hnode) ih

theorem Reaches.push (h : Reaches nodes position path) :
    Reaches (nodes ++ [⟨position, decision⟩]) (some nodes.length) (path ++ [decision]) := by
  have hparent := h.extend (List.prefix_append nodes [⟨position, decision⟩])
  have hnode : (nodes ++ [PathNode.mk position decision])[nodes.length]? =
      some ⟨position, decision⟩ := by simp
  exact Reaches.step hnode hparent

theorem walk_of_reaches (h : Reaches nodes position path) :
    walk nodes position path.length = path := by
  induction h with
  | root => rfl
  | step hnode _ ih => simp [walk, hnode, ih]

section Incumbent

variable {α σ : Type} (better : σ → σ → Bool) (score : α → σ)

/-- The incumbent after `candidate` has been seen. -/
def improve (best : Option α) (candidate : α) : Option α :=
  match best with
  | none => some candidate
  | some incumbent =>
    if better (score candidate) (score incumbent) then some candidate else best

/-- An incumbent exists and `value` does not beat it. -/
def Unbeaten (best : Option α) (value : σ) : Prop :=
  ∃ incumbent, best = some incumbent ∧ better value (score incumbent) = false

theorem improve_cases : improve better score best candidate = some candidate ∨
      improve better score best candidate = best := by
  unfold improve
  split
  · exact .inl rfl
  · split
    · exact .inl rfl
    · exact .inr rfl

theorem unbeaten_improve_self (hirrefl : ∀ value, better value value = false)
    (best : Option α) (candidate : α) :
    Unbeaten better score (improve better score best candidate) (score candidate) := by
  unfold improve
  split
  · exact ⟨candidate, rfl, hirrefl _⟩
  rename_i incumbent
  split
  · exact ⟨candidate, rfl, hirrefl _⟩
  next hworse => exact ⟨incumbent, rfl, by simpa using hworse⟩

theorem Unbeaten.improve (htrans : ∀ a b c, better a b → better b c → better a c) {value : σ}
    (h : Unbeaten better score best value) :
    Unbeaten better score (improve better score best candidate) value := by
  obtain ⟨incumbent, rfl, hvalue⟩ := h
  unfold Search.improve
  simp only
  split
  next hbetter =>
    refine ⟨candidate, rfl, ?_⟩
    cases hcase : better value (score candidate) with
    | false => rfl
    | true =>
      have hcontra := htrans _ _ _ hcase hbetter
      rw [hvalue] at hcontra
      cases hcontra
  next => exact ⟨incumbent, rfl, hvalue⟩

end Incumbent

end LiveRoute.Search
