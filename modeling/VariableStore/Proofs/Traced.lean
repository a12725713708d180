import VariableStore.Traced
/-!
What a computation does, from any state: a relation between the state before it, the calls that it makes and
the state after it. A relation that allows nothing to happen, and two things one after the other, holds of a
computation if it holds of every call in it.

Two computations over different states can be compared in the same way. What holds of each call in the one and the
call in its place in the other holds of the two.
-/
namespace VariableStore

/-- A relation that holds of doing nothing, and of two runs in a row if it holds of each. -/
structure Chained {κ σ : Type} (R : σ → List κ → σ → Prop) : Prop where
  nil : ∀ s, R s [] s
  append : ∀ s first t second u, R s first t → R t second u → R s (first ++ second) u

namespace Traced

variable {κ σ τ α β : Type} {R : σ → List κ → σ → Prop}

@[simp] theorem answer_map (f : α → β) (x : Traced κ σ α) (s : σ) : (f <$> x).answer s = f (x.answer s) := rfl

@[simp] theorem after_map (f : α → β) (x : Traced κ σ α) (s : σ) : (f <$> x).after s = x.after s := rfl

@[simp] theorem calls_map (f : α → β) (x : Traced κ σ α) (s : σ) : (f <$> x).calls s = x.calls s :=
  List.append_nil _

theorem answer_bind (x : Traced κ σ α) (f : α → Traced κ σ β) (s : σ) :
    (x >>= f).answer s = (f (x.answer s)).answer (x.after s) := rfl

theorem after_bind (x : Traced κ σ α) (f : α → Traced κ σ β) (s : σ) :
    (x >>= f).after s = (f (x.answer s)).after (x.after s) := rfl

theorem calls_bind (x : Traced κ σ α) (f : α → Traced κ σ β) (s : σ) :
    (x >>= f).calls s = x.calls s ++ (f (x.answer s)).calls (x.after s) := rfl

@[simp] theorem answer_pure (a : α) (s : σ) : (pure a : Traced κ σ α).answer s = a := rfl

/-- Computations that begin alike are one if they go on alike from every answer that the beginning can give. -/
theorem bind_congr_of_answer {x : Traced κ σ α} {f g : α → Traced κ σ β}
    (same : ∀ s, f (x.answer s) = g (x.answer s)) : x >>= f = x >>= g := by
  funext s
  have next : f (x s).1 = g (x s).1 := same s
  rw [bind_run, bind_run, next]

/-- Whatever state a computation starts in, its calls and its last state are related to it. -/
def Within (R : σ → List κ → σ → Prop) (x : Traced κ σ α) : Prop := ∀ s, R s (x.calls s) (x.after s)

theorem within_pure (chained : Chained R) (a : α) : Within R (pure a : Traced κ σ α) := chained.nil

theorem within_call {k : κ} {step : σ → α × σ} (h : ∀ s, R s [k] (step s).2) : Within R (call k step) := h

theorem within_bind (chained : Chained R) {x : Traced κ σ α} {f : α → Traced κ σ β} (hx : Within R x)
    (hf : ∀ a, Within R (f a)) : Within R (x >>= f) :=
  fun s => chained.append s _ _ _ _ (hx s) (hf (x.answer s) (x.after s))

theorem within_map (chained : Chained R) {x : Traced κ σ α} (f : α → β) (hx : Within R x) :
    Within R (f <$> x) :=
  within_bind chained hx fun a => within_pure chained (f a)

/-- A relation between computations over two kinds of states. It holds of the same answer without calls, and of two
computations in a row if it holds of the first ones, and of the second ones whatever the first ones answer. -/
structure Composed (E : ⦃α : Type⦄ → Traced κ σ α → Traced κ τ α → Prop) : Prop where
  pure : ∀ {α : Type} (a : α), E (Pure.pure a) (Pure.pure a)
  bind : ∀ {α β : Type} {x : Traced κ σ α} {y : Traced κ τ α} {f : α → Traced κ σ β} {g : α → Traced κ τ β},
    E x y → (∀ a, E (f a) (g a)) → E (x >>= f) (y >>= g)

theorem Composed.map {E : ⦃α : Type⦄ → Traced κ σ α → Traced κ τ α → Prop} (h : Composed E) {x : Traced κ σ α}
    {y : Traced κ τ α} (f : α → β) (related : E x y) : E (f <$> x) (f <$> y) :=
  h.bind related fun a => h.pure (f a)

theorem composed_within (chained : Chained R) : Composed fun ⦃_⦄ (x _ : Traced κ σ _) => Within R x :=
  ⟨within_pure chained, within_bind chained⟩

/-- Two computations run alike: from related states they give the same answer and make the same calls, and the states
after them are related again. -/
def Alike (R : σ → τ → Prop) ⦃α : Type⦄ (x : Traced κ σ α) (y : Traced κ τ α) : Prop :=
  ∀ s t, R s t → x.answer s = y.answer t ∧ x.calls s = y.calls t ∧ R (x.after s) (y.after t)

theorem alike_call {R : σ → τ → Prop} {k : κ} {step : σ → α × σ} {other : τ → α × τ}
    (h : ∀ s t, R s t → (step s).1 = (other t).1 ∧ R (step s).2 (other t).2) :
    Alike R (call k step) (call k other) := by
  intro s t related
  obtain ⟨answer, after⟩ := h s t related
  exact ⟨answer, rfl, after⟩

theorem composed_alike (R : σ → τ → Prop) : Composed (κ := κ) (Alike R) := by
  refine ⟨fun a s t related => ⟨rfl, rfl, related⟩, ?_⟩
  intro α β x y f g first second s t related
  obtain ⟨answer, calls, after⟩ := first s t related
  have next := second (y.answer t) (x.after s) (y.after t) after
  simp only [answer_bind, calls_bind, after_bind, answer, calls] at next ⊢
  exact ⟨next.1, congrArg _ next.2.1, next.2.2⟩

/-- Two computations run alike where the first one makes only calls that are allowed. -/
def AlikeOn (allowed : κ → Prop) (R : σ → τ → Prop) ⦃α : Type⦄ (x : Traced κ σ α) (y : Traced κ τ α) : Prop :=
  ∀ s t, R s t → (∀ k ∈ x.calls s, allowed k) → x.answer s = y.answer t ∧ R (x.after s) (y.after t)

theorem alikeOn_call {allowed : κ → Prop} {R : σ → τ → Prop} {k : κ} {step : σ → α × σ} {other : τ → α × τ}
    (h : allowed k → ∀ s t, R s t → (step s).1 = (other t).1 ∧ R (step s).2 (other t).2) :
    AlikeOn allowed R (call k step) (call k other) :=
  fun s t related only => h (only k List.mem_cons_self) s t related

theorem composed_alikeOn (allowed : κ → Prop) (R : σ → τ → Prop) : Composed (AlikeOn allowed R) := by
  refine ⟨fun a s t related _ => ⟨rfl, related⟩, ?_⟩
  intro α β x y f g first second s t related only
  rw [calls_bind, List.forall_mem_append] at only
  obtain ⟨answer, after⟩ := first s t related only.1
  have next := second (x.answer s) (x.after s) (y.after t) after only.2
  rw [answer_bind, answer_bind, after_bind, after_bind, ← answer]
  exact next

/-- Whatever state a computation starts in, it makes these calls. -/
def Makes (calls : List κ) (x : Traced κ σ α) : Prop := ∀ s, x.calls s = calls

theorem makes_pure (a : α) : Makes [] (pure a : Traced κ σ α) := fun _ => rfl

theorem makes_call (k : κ) (step : σ → α × σ) : Makes [k] (call k step) := fun _ => rfl

/-- The calls of two computations in a row, where what the second one calls does not depend on the first one's
answer. -/
theorem Makes.bind {first second : List κ} {x : Traced κ σ α} {f : α → Traced κ σ β} (hx : Makes first x)
    (hf : ∀ a, Makes second (f a)) : Makes (first ++ second) (x >>= f) := by
  intro s
  rw [calls_bind, hx s, hf (x.answer s) (x.after s)]

theorem Makes.map {calls : List κ} {x : Traced κ σ α} (hx : Makes calls x) (f : α → β) : Makes calls (f <$> x) :=
  fun s => (calls_map f x s).trans (hx s)

theorem Makes.bind_pure {calls : List κ} {x : Traced κ σ α} (hx : Makes calls x) (f : α → β) :
    Makes calls (x >>= fun a => pure (f a)) := by
  have both := hx.bind fun a => makes_pure (f a)
  rwa [List.append_nil] at both

def Gives (a : α) (x : Traced κ σ α) : Prop := ∀ s, x.answer s = a

theorem gives_pure (a : α) : Gives a (pure a : Traced κ σ α) := fun _ => rfl

theorem Gives.bind {a : α} {b : β} {x : Traced κ σ α} {f : α → Traced κ σ β} (hx : Gives a x)
    (hf : Gives b (f a)) : Gives b (x >>= f) := by
  intro s
  rw [answer_bind, hx s, hf (x.after s)]

end Traced

end VariableStore
