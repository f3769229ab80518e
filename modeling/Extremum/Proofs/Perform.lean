import Extremum.Error
import Mathlib.Order.Defs.Unbundled

/-!
# Performing changes

What is done to a state by a computation that may fail. The state a computation leaves behind is there whether
it fails or not, so what is known of every state that it may leave behind is a relation between the states
before and after. A relation that is reflexive and transitive passes from the parts of a computation to the
whole. A computation that only has to keep it when it fails may do anything in its last part.
-/

namespace Extremum

variable {ε σ β γ : Type}

/-- What a computation that starts in a state answers, and the state it leaves behind. -/
def perform (m : ExceptT ε (StateM σ) β) (s : σ) : Except ε β × σ :=
  m.run.run s

section Equations

variable (s : σ)

@[simp] theorem perform_pure (b : β) : perform (pure b : ExceptT ε (StateM σ) β) s = (.ok b, s) := rfl

@[simp] theorem perform_throw (e : ε) :
    perform (throw e : ExceptT ε (StateM σ) β) s = (.error e, s) := rfl

@[simp] theorem perform_get : perform (get : ExceptT ε (StateM σ) σ) s = (.ok s, s) := rfl

@[simp] theorem perform_modify (f : σ → σ) :
    perform (modify f : ExceptT ε (StateM σ) PUnit) s = (.ok ⟨⟩, f s) := rfl

/-- A computation goes on with the answer and the state of the one before it, unless that has failed. -/
theorem perform_bind (m : ExceptT ε (StateM σ) β) (k : β → ExceptT ε (StateM σ) γ) :
    perform (m >>= k) s = match perform m s with
      | (.ok b, t) => perform (k b) t
      | (.error e, t) => (.error e, t) := by
  unfold perform
  rw [ExceptT.run_bind, StateT.run_bind]
  generalize m.run.run s = result
  rcases result with ⟨answer, t⟩
  cases answer <;> rfl

variable {s} {t : σ} {m : ExceptT ε (StateM σ) β}

theorem perform_bind_of_ok {b : β} (h : perform m s = (.ok b, t)) (k : β → ExceptT ε (StateM σ) γ) :
    perform (m >>= k) s = perform (k b) t := by
  rw [perform_bind, h]

theorem perform_bind_of_error {e : ε} (h : perform m s = (.error e, t))
    (k : β → ExceptT ε (StateM σ) γ) : perform (m >>= k) s = (.error e, t) := by
  rw [perform_bind, h]

/-- A chain that answers something has come through each of its parts. -/
theorem bind_of_ok {k : β → ExceptT ε (StateM σ) γ} {c : γ} (h : perform (m >>= k) s = (.ok c, t)) :
    ∃ b u, perform m s = (.ok b, u) ∧ perform (k b) u = (.ok c, t) := by
  rw [perform_bind] at h
  rcases hresult : perform m s with ⟨answer, u⟩
  rw [hresult] at h
  cases answer with
  | error e => cases h
  | ok b => exact ⟨b, u, rfl, h⟩

/-- A handler starts in the state that the failure has left behind. -/
theorem perform_tryCatch (m : ExceptT ε (StateM σ) β) (handler : ε → ExceptT ε (StateM σ) β) (s : σ) :
    perform (tryCatch m handler) s = match perform m s with
      | (.ok b, t) => (.ok b, t)
      | (.error e, t) => perform (handler e) t := by
  unfold perform
  rw [ExceptT.run_tryCatch, StateT.run_bind]
  generalize m.run.run s = result
  rcases result with ⟨answer, t⟩
  cases answer <;> rfl

/-- What is done finally is done whether a computation fails or not. -/
theorem perform_tryFinally_modify (m : ExceptT ε (StateM σ) β) (f : σ → σ) (s : σ) :
    perform (tryFinally m (modify f : ExceptT ε (StateM σ) PUnit)) s =
      ((perform m s).1, f (perform m s).2) := by
  rcases hm : m s with ⟨answer, t⟩
  have hperform : perform m s = (answer, t) := hm
  rw [hperform]
  unfold perform tryFinally
  cases answer <;>
    simp only [tryFinally', ExceptT.run, ExceptT.mk, StateT.run, hm, ExceptT.map, StateT.bind, Functor.map, bind] <;>
    rfl

/-- A loop that fails has done some steps, and it fails at the one after them. -/
theorem forM_of_error {items : List β} {f : β → ExceptT ε (StateM σ) PUnit} {e : ε}
    (h : perform (items.forM f) s = (.error e, t)) : ∃ done b rest u, items = done ++ b :: rest ∧
      perform (done.forM f) s = (.ok ⟨⟩, u) ∧ perform (f b) u = (.error e, t) := by
  induction items generalizing s with
  | nil => cases h
  | cons b rest ih =>
    rcases hfirst : perform (f b) s with ⟨answer, u⟩
    cases answer with
    | error e' =>
      have hstops : perform ((b :: rest).forM f) s = (.error e', u) := perform_bind_of_error hfirst _
      rw [hstops] at h
      cases h
      exact ⟨[], b, rest, s, rfl, rfl, hfirst⟩
    | ok _ =>
      have hgoes : perform ((b :: rest).forM f) s = perform (rest.forM f) u := perform_bind_of_ok hfirst _
      rw [hgoes] at h
      obtain ⟨done, c, after, w, rfl, hdone, hfails⟩ := ih h
      refine ⟨b :: done, c, after, w, rfl, ?_, hfails⟩
      exact (perform_bind_of_ok hfirst _).trans hdone

end Equations

/-! ## Relations between the states before and after -/

/-- Whatever a computation answers, the states before and after it are related. -/
def Keeps (R : σ → σ → Prop) (m : ExceptT ε (StateM σ) β) : Prop :=
  ∀ s, R s (perform m s).2

/-- The states before a computation that fails and after it are related. -/
def Spares (R : σ → σ → Prop) (m : ExceptT ε (StateM σ) β) : Prop :=
  ∀ s e t, perform m s = (.error e, t) → R s t

namespace Keeps

/-- What is kept in one relation is kept in every weaker one. -/
theorem mono {R R' : σ → σ → Prop} (h : ∀ s t, R s t → R' s t) {m : ExceptT ε (StateM σ) β}
    (hm : Keeps R m) : Keeps R' m :=
  fun s ↦ h _ _ (hm s)

protected theorem spares {R : σ → σ → Prop} {m : ExceptT ε (StateM σ) β} (hm : Keeps R m) : Spares R m := by
  intro s e t h
  have hkept := hm s
  rw [h] at hkept
  exact hkept

variable {R : σ → σ → Prop} [IsPreorder σ R]

protected theorem pure (b : β) : Keeps R (pure b : ExceptT ε (StateM σ) β) :=
  fun s ↦ refl_of R s

protected theorem throw (e : ε) : Keeps R (throw e : ExceptT ε (StateM σ) β) :=
  fun s ↦ refl_of R s

protected theorem get : Keeps R (get : ExceptT ε (StateM σ) σ) :=
  fun s ↦ refl_of R s

/-- What two computations keep, one after the other keeps. -/
protected theorem bind {m : ExceptT ε (StateM σ) β} {k : β → ExceptT ε (StateM σ) γ} (hm : Keeps R m)
    (hk : ∀ b, Keeps R (k b)) : Keeps R (m >>= k) := by
  intro s
  rw [perform_bind]
  have hfirst := hm s
  rcases hresult : perform m s with ⟨answer, t⟩
  rw [hresult] at hfirst
  cases answer with
  | error e => exact hfirst
  | ok b => exact trans_of R hfirst (hk b t)

/-- A computation whose first part only looks at the state: the rest may count on what was seen. -/
theorem of_read {m : ExceptT ε (StateM σ) β} {k : β → ExceptT ε (StateM σ) γ}
    (hm : ∀ s, (perform m s).2 = s) (hk : ∀ s b, perform m s = (.ok b, s) → R s (perform (k b) s).2) :
    Keeps R (m >>= k) := by
  intro s
  have hsame := hm s
  rcases hresult : perform m s with ⟨answer, t⟩
  rw [hresult] at hsame
  dsimp only at hsame
  subst hsame
  cases answer with
  | error e =>
    rw [perform_bind_of_error hresult]
    exact refl_of R t
  | ok b =>
    rw [perform_bind_of_ok hresult]
    exact hk t b hresult

protected theorem tryCatch {m : ExceptT ε (StateM σ) β} {handler : ε → ExceptT ε (StateM σ) β} (hm : Keeps R m)
    (hhandler : ∀ e, Keeps R (handler e)) : Keeps R (tryCatch m handler) := by
  intro s
  rw [perform_tryCatch]
  have hfirst := hm s
  rcases hresult : perform m s with ⟨answer, t⟩
  rw [hresult] at hfirst
  cases answer with
  | error e => exact trans_of R hfirst (hhandler e t)
  | ok b => exact hfirst

/-- What is kept for every item is kept by a loop over the items. -/
protected theorem forM {items : List β} {f : β → ExceptT ε (StateM σ) PUnit} (hf : ∀ b ∈ items, Keeps R (f b)) :
    Keeps R (items.forM f) := by
  induction items with
  | nil => exact Keeps.pure _
  | cons b rest ih =>
    have hrest : Keeps R (rest.forM f) := ih fun c hc ↦ hf c (List.mem_cons_of_mem b hc)
    exact Keeps.bind (hf b List.mem_cons_self) fun _ ↦ hrest

end Keeps

/-- A computation spares what its last part does if that part fails, and the others do nothing. -/
theorem Spares.bind {R : σ → σ → Prop} [IsPreorder σ R] {m : ExceptT ε (StateM σ) β}
    {k : β → ExceptT ε (StateM σ) γ} (hm : Keeps R m) (hk : ∀ b, Spares R (k b)) : Spares R (m >>= k) := by
  intro s e t h
  have hfirst := hm s
  rcases hresult : perform m s with ⟨answer, u⟩
  rw [hresult] at hfirst
  cases answer with
  | error e' =>
    rw [perform_bind_of_error hresult] at h
    cases h
    exact hfirst
  | ok b =>
    rw [perform_bind_of_ok hresult] at h
    exact trans_of R hfirst (hk b u e t h)

end Extremum
