/-!
Computations that leave a trace: from a state they give an answer, the calls made on the way, in order, and the
state after them. The calls of two computations in a row stand one after the other.
-/
namespace VariableStore

/-- A computation over states `σ` that makes calls of type `κ`. -/
def Traced (κ σ α : Type) : Type := σ → α × List κ × σ

namespace Traced

variable {κ σ α β : Type}

def run (x : Traced κ σ α) (s : σ) : α × List κ × σ := x s

def answer (x : Traced κ σ α) (s : σ) : α := (x s).1

def calls (x : Traced κ σ α) (s : σ) : List κ := (x s).2.1

def after (x : Traced κ σ α) (s : σ) : σ := (x s).2.2

def done (a : α) : Traced κ σ α := fun s => (a, [], s)

def andThen (x : Traced κ σ α) (f : α → Traced κ σ β) : Traced κ σ β := fun s =>
  let (a, first, s) := x s
  let (b, second, s) := f a s
  (b, first ++ second, s)

/-- One call, answered by a step of the state. -/
def call (k : κ) (step : σ → α × σ) : Traced κ σ α := fun s =>
  let (a, s) := step s
  (a, [k], s)

instance : Monad (Traced κ σ) where
  pure := done
  bind := andThen

@[simp] theorem pure_run (a : α) (s : σ) : (pure a : Traced κ σ α) s = (a, [], s) := rfl

@[simp] theorem bind_run (x : Traced κ σ α) (f : α → Traced κ σ β) (s : σ) :
    (x >>= f) s =
      ((f (x s).1 (x s).2.2).1, (x s).2.1 ++ (f (x s).1 (x s).2.2).2.1, (f (x s).1 (x s).2.2).2.2) := rfl

@[simp] theorem call_run (k : κ) (step : σ → α × σ) (s : σ) :
    (call k step : Traced κ σ α) s = ((step s).1, [k], (step s).2) := rfl

theorem map_run (f : α → β) (x : Traced κ σ α) (s : σ) :
    (f <$> x) s = (f (x s).1, (x s).2.1, (x s).2.2) := by
  show ((f (x s).1), (x s).2.1 ++ [], (x s).2.2) = _
  rw [List.append_nil]

instance : LawfulMonad (Traced κ σ) :=
  LawfulMonad.mk' (Traced κ σ)
    (fun x => by funext s; rw [map_run]; rfl)
    (fun a f => by funext s; simp)
    (fun x f g => by funext s; simp [List.append_assoc])

end Traced

end VariableStore
