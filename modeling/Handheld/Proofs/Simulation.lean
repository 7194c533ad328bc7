/-! Two stateful programs that keep their states related.
The relation between states is the invariant; answers are related by a relation of their own.
-/

namespace Handheld

variable {σ τ α β γ δ : Type}

/-- What follows some work is carried out on its answer in the state that it leaves. -/
theorem run_bind_of {p : StateM σ α} {f : α → StateM σ β} {s after : σ} {answer : α}
    (first : p.run s = (answer, after))
    : (p >>= f).run s = (f answer).run after := by
  rw [StateT.run_bind, first]
  rfl

/-- Started in related states, two programs end in related states with related answers. -/
def Simulation (R : σ → τ → Prop) (V : α → β → Prop) (p : StateM σ α) (q : StateM τ β) : Prop :=
  ∀ s t, R s t → V (p.run s).1 (q.run t).1 ∧ R (p.run s).2 (q.run t).2

namespace Simulation

variable {R : σ → τ → Prop} {V : α → β → Prop} {W : γ → δ → Prop}

/-- Related answers may be given at once. -/
theorem pure {a : α} {b : β} (answers : V a b)
    : Simulation R V (Pure.pure a) (Pure.pure b) :=
  fun _ _ related => ⟨answers, related⟩

/-- Programs may be carried out one after the other, each on the answer of the one before. -/
theorem bind {p : StateM σ α} {q : StateM τ β} {f : α → StateM σ γ} {g : β → StateM τ δ}
    (first : Simulation R V p q) (rest : ∀ a b, V a b → Simulation R W (f a) (g b))
    : Simulation R W (p >>= f) (q >>= g) := by
  intro s t related
  obtain ⟨answers, between⟩ := first s t related
  exact rest _ _ answers _ _ between

/-- Programs without an answer may be carried out one after the other. -/
theorem seq {p : StateM σ PUnit} {q : StateM τ PUnit} {f : PUnit → StateM σ γ}
    {g : PUnit → StateM τ δ} (first : Simulation R (fun _ _ => True) p q)
    (rest : Simulation R W (f ⟨⟩) (g ⟨⟩))
    : Simulation R W (p >>= f) (q >>= g) :=
  first.bind fun _ _ _ => rest

end Simulation

end Handheld
