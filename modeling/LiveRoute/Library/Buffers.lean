import LiveRoute.Library.Search

/-! Vectors that are kept between uses. A use that sizes and refills a vector
before it reads it does not depend on what the use before has left there. -/
namespace LiveRoute.Buffers
open Search

variable {α δ : Type}

/-- The first items, followed by copies of `value` up to the new size. -/
def resize (items : List α) (count : Nat) (value : α) : List α :=
  items.take count ++ List.replicate (count - items.length) value

def fill (items : List α) (value : α) : List α := items.map fun _ => value

@[simp] theorem length_resize (value : α) : (resize items count value).length = count := by
  simp only [resize, List.length_append, List.length_take, List.length_replicate]
  omega

@[simp] theorem fill_resize (value : α) :
    fill (resize items count value) filler = List.replicate count filler := by
  rw [fill, List.map_const', length_resize]

/-- Writes the decisions of a path into a buffer, the last one first. -/
def writeBack (nodes : List (PathNode δ)) : Option Nat → Nat → List δ → List δ
  | _, 0, buffer => buffer
  | none, _ + 1, buffer => buffer
  | some index, position + 1, buffer =>
    match nodes[index]? with
    | none => buffer
    | some node => writeBack nodes node.parent position (buffer.set position node.decision)

theorem writeBack_of_reaches
    (h : Reaches nodes position path) {buffer : List δ} (hroom : path.length ≤ buffer.length) :
    writeBack nodes position path.length buffer = path ++ buffer.drop path.length := by
  induction h generalizing buffer with
  | root => rfl
  | @step _ _ _ hnode _ ih =>
    rw [List.length_append, List.length_singleton] at hroom ⊢
    rw [writeBack, hnode]
    dsimp only
    rw [ih (by rw [List.length_set]; omega), List.drop_eq_getElem_cons (by simp; omega),
      List.getElem_set_self, List.drop_set_of_lt (by omega), List.append_assoc]
    rfl

end LiveRoute.Buffers
