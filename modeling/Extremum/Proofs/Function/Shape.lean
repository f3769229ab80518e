import Extremum.Proofs.Reading
import Extremum.Proofs.Rows
import Extremum.Proofs.Session.Equations
import Extremum.Session.Evaluating

/-!
# Checked shapes

The value of a function, its gradients, its jacobian and its hessians are computed by parts that may return numbers
in any nesting. The public methods check what they are given before they call a part, and what the part returned
before they answer; each of them brings the numbers into form in its own way. All four keep one contract: they
answer exactly if everything fits, the answer has the promised shape, and whatever does not fit is out of range
(`shapes_checked`). Nothing is assumed of the parts, which may be those of a user.
-/

namespace Extremum

variable {α β : Type}

/-! ## The contract -/

/-- A part returned numbers in lists that have a shape. -/
def Converts (part : Except (Error α) (Nested α)) (t : Tensor α) : Prop :=
  ∃ raw, part = .ok raw ∧ raw.tensor? = some t

/-- A call was refused because of a shape or of an index. -/
def OutOfRange (answer : Except (Error α) β) : Prop :=
  ∃ e, answer = .error e ∧ e.kindName = Kind.outOfRange.name

/-- What holds of a method that is given `x`, calls `part` at the point, and answers with what `part` returned. -/
structure Contract (x : Reading α (Tensor α)) (fits : Tensor α → Prop)
    (part : List α → Except (Error α) (Nested α)) (accepts : Tensor α → Prop) (holds : β → Tensor α → Prop)
    (answer : Except (Error α) β) : Prop where
  /-- There is an answer exactly if the argument fits and numbers are returned that are accepted. -/
  answers_iff : (∃ y, answer = .ok y) ↔
    ∃ point t, x = .ok point ∧ fits point ∧ Converts (part point.data) t ∧ accepts t
  /-- The answer holds these numbers in the promised shape. -/
  result : ∀ y, answer = .ok y → ∃ point t, x = .ok point ∧ fits point ∧ Converts (part point.data) t ∧
    accepts t ∧ holds y t
  /-- Numbers that do not fit as an argument are out of range. -/
  argument : ∀ point, x = .ok point → ¬fits point → OutOfRange answer
  /-- Numbers that are returned and not accepted are out of range. -/
  returned : ∀ point t, x = .ok point → fits point → Converts (part point.data) t → ¬accepts t → OutOfRange answer

/-- A part returns numbers of one shape only. -/
theorem Converts.unique {part : Except (Error α) (Nested α)} {t u : Tensor α} (h : Converts part t)
    (h' : Converts part u) : t = u := by
  obtain ⟨raw, hraw, ht⟩ := h
  obtain ⟨raw', hraw', hu⟩ := h'
  rw [hraw] at hraw'
  cases hraw'
  exact Option.some.inj (ht.symm.trans hu)

/-- Nested numbers are read exactly if their lists have a shape. -/
theorem Nested.numbers_eq_ok_iff {raw : Nested α} {t : Tensor α} : raw.numbers = .ok t ↔ raw.tensor? = some t := by
  unfold Nested.numbers
  cases raw.tensor? <;> simp

/-- Numbers that a part returned go on to the last step. -/
theorem Converts.bind_numbers {part : Except (Error α) (Nested α)} {t : Tensor α} (h : Converts part t)
    (leave : Tensor α → Except (Error α) β) :
    (part >>= fun raw ↦ raw.numbers >>= leave) = leave t := by
  obtain ⟨raw, rfl, ht⟩ := h
  change raw.numbers >>= leave = leave t
  rw [Nested.numbers_eq_ok_iff.2 ht]
  rfl

/-- What a method that keeps the contract answers, if the numbers tell the answer. -/
theorem Contract.eq_ok_iff {x : Reading α (Tensor α)} {fits : Tensor α → Prop}
    {part : List α → Except (Error α) (Nested α)} {accepts : Tensor α → Prop} {holds : β → Tensor α → Prop}
    {answer : Except (Error α) β} (h : Contract x fits part accepts holds answer)
    (hholds : ∀ y z t, holds y t → holds z t → y = z) {y : β} : answer = .ok y ↔ ∃ point t, x = .ok point ∧
      fits point ∧ Converts (part point.data) t ∧ accepts t ∧ holds y t := by
  refine ⟨h.result y, ?_⟩
  rintro ⟨point, t, hx, hfits, hconverts, haccepted, hy⟩
  obtain ⟨z, hanswer⟩ := h.answers_iff.2 ⟨point, t, hx, hfits, hconverts, haccepted⟩
  obtain ⟨point', t', hx', -, hconverts', -, hz⟩ := h.result z hanswer
  obtain rfl : point = point' := Except.ok.inj (hx.symm.trans hx')
  obtain rfl : t = t' := hconverts.unique hconverts'
  rw [hanswer, hholds y z t hy hz]

/-- A method keeps the contract if it refuses what does not fit, and otherwise hands what the part returned to a
last step that keeps it. -/
theorem contract_of_call {x : Reading α (Tensor α)} {fits : Tensor α → Prop}
    {part : List α → Except (Error α) (Nested α)} {accepts : Tensor α → Prop} {holds : β → Tensor α → Prop}
    {answer : Except (Error α) β} (leave : Tensor α → Except (Error α) β)
    (hunread : ∀ e, x = .error e → answer = .error e)
    (hunfit : ∀ point, x = .ok point → ¬fits point → OutOfRange answer)
    (hcalled : ∀ point, x = .ok point → fits point →
      answer = part point.data >>= fun raw ↦ raw.numbers >>= leave)
    (haccepts : ∀ t, accepts t → ∃ y, leave t = .ok y ∧ holds y t)
    (hmisfit : ∀ t, ¬accepts t → OutOfRange (leave t)) : Contract x fits part accepts holds answer := by
  have hresult : ∀ y, answer = .ok y → ∃ point t, x = .ok point ∧ fits point ∧
      Converts (part point.data) t ∧ accepts t ∧ holds y t := by
    intro y hy
    cases x with
    | error e =>
      rw [hunread e rfl] at hy
      cases hy
    | ok point =>
      by_cases hfits : fits point
      · rw [hcalled point rfl hfits] at hy
        obtain ⟨raw, hraw, hy⟩ := Reading.bind_eq_ok_iff.1 hy
        obtain ⟨t, ht, hy⟩ := Reading.bind_eq_ok_iff.1 hy
        have hconverts : Converts (part point.data) t := ⟨raw, hraw, Nested.numbers_eq_ok_iff.1 ht⟩
        by_cases haccepted : accepts t
        · obtain ⟨y', hy', hholds⟩ := haccepts t haccepted
          rw [hy] at hy'
          cases hy'
          exact ⟨point, t, rfl, hfits, hconverts, haccepted, hholds⟩
        · obtain ⟨e, he, -⟩ := hmisfit t haccepted
          rw [hy] at he
          cases he
      · obtain ⟨e, he, -⟩ := hunfit point rfl hfits
        rw [hy] at he
        cases he
  refine ⟨⟨?_, ?_⟩, hresult, hunfit, ?_⟩
  · rintro ⟨y, hy⟩
    obtain ⟨point, t, hx, hfits, hconverts, haccepted, -⟩ := hresult y hy
    exact ⟨point, t, hx, hfits, hconverts, haccepted⟩
  · rintro ⟨point, t, hx, hfits, hconverts, haccepted⟩
    obtain ⟨y, hy, -⟩ := haccepts t haccepted
    refine ⟨y, ?_⟩
    rw [hcalled point hx hfits, hconverts.bind_numbers, hy]
  · intro point t hx hfits hconverts haccepted
    rw [hcalled point hx hfits, hconverts.bind_numbers]
    exact hmisfit t haccepted

namespace Function

variable {f g : Function α} {point t : Tensor α} {i : Int}

/-! ## Checks -/

theorem argument_of_shape (h : point.shape = [f.inputSize]) : f.argument point = .ok point.data := by
  unfold argument
  rw [if_pos h]

theorem argument_of_ne (h : point.shape ≠ [f.inputSize]) :
    f.argument point = .error (.argumentShape point.shape f.inputSize f.label) := by
  unfold argument
  rw [if_neg h]

theorem output_of_lt (h : 0 ≤ i ∧ i < f.outputSize) : f.output i = .ok i.toNat := by
  unfold output
  rw [if_pos h]

theorem output_of_not (h : ¬(0 ≤ i ∧ i < f.outputSize)) :
    f.output i = .error (.outputIndex i f.label f.outputSize) := by
  unfold output
  rw [if_neg h]

theorem returned_of_shape {hook : String} {expected : List Nat} (h : t.shape = expected) :
    f.returned hook expected t = .ok t := by
  unfold returned
  rw [if_pos h]

/-- Numbers of another shape than expected are refused as out of range, whatever was to be done with them. -/
theorem outOfRange_of_returned {hook : String} {expected : List Nat} (h : t.shape ≠ expected)
    (k : Tensor α → Except (Error α) β) : OutOfRange (f.returned hook expected t >>= k) := by
  unfold returned
  rw [if_neg h]
  exact ⟨_, rfl, rfl⟩

theorem provides_of_isSubtier {tier : Tier} (h : f.tier.isSubtier tier = true) : f.provides tier = .ok () := by
  unfold provides
  rw [if_pos h]

/-- A scalar counts as a vector of one entry. -/
theorem shape_atLeastVector_iff {m : Nat} :
    t.atLeastVector.shape = [m] ↔ t.shape = [m] ∨ t.shape = [] ∧ m = 1 := by
  unfold Tensor.atLeastVector
  by_cases h : t.shape = []
  · have hdata : t.data.length = 1 := by rw [t.length_data, h, volume_nil]
    simp [h, hdata, eq_comm]
  · simp [h]

/-! ## Last steps

What each method does with the numbers that its part returned.
-/

def valueOf (f : Function α) (t : Tensor α) : Except (Error α) (List α) := do
  return (← f.returned "impl_compute" [f.outputSize] t.atLeastVector).data

/-- A gradient, whatever the shape of its numbers was. -/
def gradientOf (f : Function α) (t : Tensor α) : Except (Error α) (List α) := do
  return (← f.returned "impl_gradient" [f.inputSize] (.vector t.data)).data

/-- A matrix that came from a part. -/
def matrixOf (f : Function α) (hook : String) (height width : Nat) (t : Tensor α) :
    Except (Error α) (Matrix α) := do
  let checked ← f.returned hook [height, width] t
  match Matrix.ofTensor? checked with
  | some matrix => return matrix
  | none => throw (.unfit .value)

/-- A jacobian; that of a single output may come as a vector. -/
def jacobianOf (f : Function α) (t : Tensor α) : Except (Error α) (Matrix α) :=
  f.matrixOf "impl_jacobian" f.outputSize f.inputSize
    (if t.rank = 1 ∧ f.outputSize = 1 then jacobian.asRow t else t)

/-- The values may come as a vector, or as a scalar if there is one. -/
theorem valueOf_of_shape (h : t.shape = [f.outputSize] ∨ t.shape = [] ∧ f.outputSize = 1) :
    f.valueOf t = .ok t.data := by
  unfold valueOf
  rw [returned_of_shape (shape_atLeastVector_iff.2 h)]
  exact congrArg Except.ok t.data_atLeastVector

/-- The entries of a gradient may come in any shape. -/
theorem gradientOf_of_size (h : t.size = f.inputSize) : f.gradientOf t = .ok t.data := by
  have hshape : (Tensor.vector t.data).shape = [f.inputSize] := congrArg ([·]) h
  unfold gradientOf
  rw [returned_of_shape hshape]
  rfl

/-- A matrix is made of what has two axes of the expected lengths. -/
theorem matrixOf_of_shape {hook : String} {m n : Nat} (h : t.shape = [m, n]) :
    ∃ a, f.matrixOf hook m n t = .ok a ∧ a.height = m ∧ a.width = n ∧ a.entries = t.data := by
  obtain ⟨a, ha, hsides⟩ := Matrix.exists_ofTensor? h
  refine ⟨a, ?_, hsides⟩
  unfold matrixOf
  rw [returned_of_shape h]
  change (match Matrix.ofTensor? t with | some matrix => pure matrix | none => _) = _
  rw [ha]
  rfl

/-- The jacobian of one output may come as a vector, which is its only row. -/
theorem jacobianOf_of_shape
    (h : t.shape = [f.outputSize, f.inputSize] ∨ t.shape = [f.inputSize] ∧ f.outputSize = 1) :
    ∃ a, f.jacobianOf t = .ok a ∧ a.height = f.outputSize ∧ a.width = f.inputSize ∧ a.entries = t.data := by
  unfold jacobianOf
  rcases h with h | ⟨h, hone⟩
  · have hrank : ¬(t.rank = 1 ∧ f.outputSize = 1) := by simp [Tensor.rank, h]
    rw [if_neg hrank]
    exact matrixOf_of_shape h
  · have hrank : t.rank = 1 ∧ f.outputSize = 1 := ⟨by rw [Tensor.rank, h]; rfl, hone⟩
    have hdata : t.data.length = f.inputSize := Tensor.length_of_shape h
    rw [if_pos hrank]
    apply matrixOf_of_shape
    change [1, t.data.length] = _
    rw [hdata, hone]

/-- Nothing but a matrix of the right size, or one row as a vector, is a jacobian. -/
theorem outOfRange_of_jacobianOf
    (h : ¬(t.shape = [f.outputSize, f.inputSize] ∨ t.shape = [f.inputSize] ∧ f.outputSize = 1)) :
    OutOfRange (f.jacobianOf t) := by
  rw [not_or, not_and] at h
  apply outOfRange_of_returned
  split
  · rename_i hrank
    obtain ⟨n, hn⟩ := List.length_eq_one_iff.1 hrank.1
    have hdata : t.data.length = n := Tensor.length_of_shape hn
    intro hshape
    change [1, t.data.length] = _ at hshape
    rw [hdata, hrank.2] at hshape
    cases hshape
    exact h.2 hn hrank.2
  · exact h.1

/-! ## Refusals -/

/-- Why a point and an index do not fit: the point counts first. -/
def refusal (f : Function α) (point : Tensor α) (i : Int) : Error α :=
  if point.shape = [f.inputSize] then .outputIndex i f.label f.outputSize
  else .argumentShape point.shape f.inputSize f.label

theorem outOfRange_refusal (f : Function α) (point : Tensor α) (i : Int) :
    OutOfRange (.error (f.refusal point i) : Except (Error α) β) := by
  refine ⟨_, rfl, ?_⟩
  unfold refusal
  split <;> rfl

/-- Whatever the continuation is, it is not reached at a point or an index that does not fit. -/
theorem argument_output_of_unfit (h : ¬(point.shape = [f.inputSize] ∧ 0 ≤ i ∧ i < f.outputSize))
    (k : List α → Nat → Except (Error α) β) :
    (f.argument point >>= fun a ↦ f.output i >>= k a) = .error (f.refusal point i) := by
  unfold refusal
  by_cases hshape : point.shape = [f.inputSize]
  · rw [argument_of_shape hshape, output_of_not fun hi ↦ h ⟨hshape, hi⟩, if_pos hshape]
    rfl
  · rw [argument_of_ne hshape, if_neg hshape]
    rfl

/-- Two functions that differ in nothing but their parts. -/
structure SameFrame (f g : Function α) : Prop where
  inputSize : g.inputSize = f.inputSize
  outputSize : g.outputSize = f.outputSize
  tier : g.tier = f.tier
  label : g.label = f.label

/-- Refusals name sizes and labels, in which functions of one frame do not differ. -/
theorem SameFrame.refusal_eq (h : f.SameFrame g) (point : Tensor α) (i : Int) :
    g.refusal point i = f.refusal point i := by
  unfold refusal
  rw [h.inputSize, h.outputSize, h.label]

theorem SameFrame.provides_eq (h : f.SameFrame g) (t : Tier) : g.provides t = f.provides t := by
  unfold provides
  rw [h.tier]

variable [Scalar α]

/-! ## Methods

Each method of a function: what it does with a point that fits, and that its part has no say in what it does with
any other one.
-/

/-- At a point of the right size, the value is what becomes of the numbers from the part. -/
theorem evaluate_of_shape (h : point.shape = [f.inputSize]) :
    f.evaluate point = f.compute point.data >>= fun raw ↦ raw.numbers >>= f.valueOf := by
  unfold evaluate evaluateWith
  rw [argument_of_shape h]
  rfl

theorem evaluate_of_unfit (h : point.shape ≠ [f.inputSize]) :
    f.evaluate point = .error (.argumentShape point.shape f.inputSize f.label) := by
  unfold evaluate evaluateWith
  rw [argument_of_ne h]
  rfl

theorem gradient_of_shape (hderivable : f.tier.isSubtier .derivable = true) (h : point.shape = [f.inputSize])
    (hi : 0 ≤ i ∧ i < f.outputSize) : f.gradient point i =
      f.rawGradient point.data i.toNat >>= fun raw ↦ raw.numbers >>= f.gradientOf := by
  unfold gradient
  rw [provides_of_isSubtier hderivable, argument_of_shape h, output_of_lt hi]
  rfl

/-- At any other point, and for any other index, a gradient is refused once the tier has been looked at. -/
theorem gradient_of_unfit (h : ¬(point.shape = [f.inputSize] ∧ 0 ≤ i ∧ i < f.outputSize)) :
    f.gradient point i = f.provides .derivable >>= fun _ ↦ .error (f.refusal point i) := by
  unfold gradient
  exact congrArg (f.provides .derivable >>= fun _ ↦ ·) (argument_output_of_unfit h _)

theorem jacobian_of_shape (hderivable : f.tier.isSubtier .derivable = true) (h : point.shape = [f.inputSize]) :
    f.jacobian false point = f.rawJacobian point.data >>= fun raw ↦ raw.numbers >>= f.jacobianOf := by
  unfold jacobian
  rw [provides_of_isSubtier hderivable, argument_of_shape h]
  rfl

theorem jacobian_of_unfit {debug : Bool} (h : point.shape ≠ [f.inputSize]) : f.jacobian debug point =
    f.provides .derivable >>= fun _ ↦ .error (.argumentShape point.shape f.inputSize f.label) := by
  unfold jacobian
  rw [argument_of_ne h]
  rfl

theorem hessian_of_shape (htwice : f.tier.isSubtier .twiceDerivable = true) (hlinear : f.tier ≠ .linear)
    (h : point.shape = [f.inputSize]) (hi : 0 ≤ i ∧ i < f.outputSize) : f.hessian false point i =
      f.rawHessian point.data i.toNat >>= fun raw ↦ raw.numbers >>=
        f.matrixOf "impl_hessian" f.inputSize f.inputSize := by
  unfold hessian
  rw [provides_of_isSubtier htwice, argument_of_shape h, output_of_lt hi]
  exact if_neg hlinear

/-- Hessians are refused as gradients are, in debug mode and without it. -/
theorem hessian_of_unfit {debug : Bool} (h : ¬(point.shape = [f.inputSize] ∧ 0 ≤ i ∧ i < f.outputSize)) :
    f.hessian debug point i = f.provides .twiceDerivable >>= fun _ ↦ .error (f.refusal point i) := by
  unfold hessian
  exact congrArg (f.provides .twiceDerivable >>= fun _ ↦ ·) (argument_output_of_unfit h _)

end Function

/-! ## In a session -/

namespace Session

/-- What a run answers, whatever it leaves behind. -/
def answer (m : Run β) (s : Session) : Except (Error Float) β :=
  (perform m s).1

variable {f g : Function Float} {s : Session} {x : Reading Float (Tensor Float)} {i : Int}

theorem pointFor_of_isSubtier {t : Tier} (h : f.tier.isSubtier t = true) : pointFor f t x = x := by
  unfold pointFor
  rw [Function.provides_of_isSubtier h]
  rfl

theorem answer_evaluate : answer (evaluate f x) s = x >>= f.evaluate := by
  unfold answer evaluate
  rw [perform_bind, perform_lift]
  cases x with
  | error e => rfl
  | ok point => exact congrArg Prod.fst (perform_lift _ s)

/-- What a session answers for a gradient is what the function answers at the point, and nothing of the session
counts. -/
theorem answer_gradient : answer (gradient f x i) s = pointFor f .derivable x >>= (f.gradient · i) := by
  unfold answer gradient
  rw [perform_bind, perform_lift]
  cases pointFor f .derivable x with
  | error e => rfl
  | ok point => exact congrArg Prod.fst (perform_lift _ s)

theorem answer_jacobian : answer (jacobian f x) s = pointFor f .derivable x >>= f.jacobian s.debug := by
  unfold answer jacobian
  rw [perform_bind, perform_lift]
  cases pointFor f .derivable x with
  | error e => rfl
  | ok point =>
    dsimp only
    rw [perform_bind_of_ok (perform_get s), perform_lift]
    rfl

/-- What a session answers for a hessian depends on nothing of it but the debug mode. -/
theorem answer_hessian :
    answer (hessian f x i) s = pointFor f .twiceDerivable x >>= (f.hessian s.debug · i) := by
  unfold answer hessian
  rw [perform_bind, perform_lift]
  cases pointFor f .twiceDerivable x with
  | error e => rfl
  | ok point =>
    dsimp only
    rw [perform_bind_of_ok (perform_get s), perform_lift]
    rfl

/-! ## The methods keep the contract -/

/-- The numbers are a vector of as many entries as the function has arguments. -/
abbrev IsPoint (f : Function Float) (point : Tensor Float) : Prop :=
  point.shape = [f.inputSize]

/-- The function has an output with the index. -/
abbrev HasOutput (f : Function Float) (i : Int) : Prop :=
  0 ≤ i ∧ i < f.outputSize

/-- Scalars count as vectors of one entry. -/
def ValueContract (f : Function Float) (x : Reading Float (Tensor Float)) :
    Except (Error Float) (List Float) → Prop :=
  Contract x (IsPoint f) f.compute (fun t ↦ t.shape = [f.outputSize] ∨ t.shape = [] ∧ f.outputSize = 1)
    fun value t ↦ value.length = f.outputSize ∧ value = t.data

/-- Any shape with the right number of entries is as good as a vector. -/
def GradientContract (f : Function Float) (x : Reading Float (Tensor Float)) (i : Int) :
    Except (Error Float) (List Float) → Prop :=
  Contract x (fun point ↦ IsPoint f point ∧ HasOutput f i) (f.rawGradient · i.toNat)
    (fun t ↦ t.size = f.inputSize) fun slope t ↦ slope.length = f.inputSize ∧ slope = t.data

/-- A vector counts as a matrix of one row if there is one output. -/
def JacobianContract (f : Function Float) (x : Reading Float (Tensor Float)) :
    Except (Error Float) (Matrix Float) → Prop :=
  Contract x (IsPoint f) f.rawJacobian
    (fun t ↦ t.shape = [f.outputSize, f.inputSize] ∨ t.shape = [f.inputSize] ∧ f.outputSize = 1)
    fun a t ↦ a.height = f.outputSize ∧ a.width = f.inputSize ∧ a.entries = t.data

/-- Nothing but a square matrix counts as a hessian. -/
def HessianContract (f : Function Float) (x : Reading Float (Tensor Float)) (i : Int) :
    Except (Error Float) (Matrix Float) → Prop :=
  Contract x (fun point ↦ IsPoint f point ∧ HasOutput f i) (f.rawHessian · i.toNat)
    (fun t ↦ t.shape = [f.inputSize, f.inputSize])
    fun a t ↦ a.height = f.inputSize ∧ a.width = f.inputSize ∧ a.entries = t.data

/-- Values keep the contract, whatever the part does. -/
theorem valueContract (f : Function Float) (x : Reading Float (Tensor Float)) (s : Session) :
    ValueContract f x (answer (evaluate f x) s) := by
  rw [answer_evaluate]
  refine contract_of_call f.valueOf ?_ ?_ ?_ (fun t h ↦ ?_) fun t h ↦ ?_
  · rintro e rfl
    rfl
  · rintro point rfl h
    exact ⟨_, Function.evaluate_of_unfit h, rfl⟩
  · rintro point rfl h
    exact Function.evaluate_of_shape h
  · refine ⟨t.data, Function.valueOf_of_shape h, ?_, rfl⟩
    rcases h with h | ⟨h, hone⟩
    · exact Tensor.length_of_shape h
    · rw [t.length_data, h, volume_nil, hone]
  · exact Function.outOfRange_of_returned (fun hshape ↦ h (Function.shape_atLeastVector_iff.1 hshape)) _

/-- Gradients keep the contract of functions that promise them. -/
theorem gradientContract (hderivable : f.tier.isSubtier .derivable = true) (x : Reading Float (Tensor Float))
    (i : Int) (s : Session) : GradientContract f x i (answer (gradient f x i) s) := by
  rw [answer_gradient, pointFor_of_isSubtier hderivable]
  refine contract_of_call f.gradientOf ?_ ?_ ?_ (fun t h ↦ ?_) fun t h ↦ ?_
  · rintro e rfl
    rfl
  · rintro point rfl h
    have hrefused := Function.gradient_of_unfit h
    rw [Function.provides_of_isSubtier hderivable] at hrefused
    change OutOfRange (f.gradient point i)
    rw [hrefused]
    exact f.outOfRange_refusal point i
  · rintro point rfl ⟨h, hi⟩
    exact Function.gradient_of_shape hderivable h hi
  · exact ⟨t.data, Function.gradientOf_of_size h, h, rfl⟩
  · apply Function.outOfRange_of_returned
    intro hshape
    exact h (List.head_eq_of_cons_eq hshape)

/-- Without debug mode, jacobians keep the contract of functions that promise gradients. -/
theorem jacobianContract (hderivable : f.tier.isSubtier .derivable = true) (x : Reading Float (Tensor Float))
    (hdebug : s.debug = false) : JacobianContract f x (answer (jacobian f x) s) := by
  rw [answer_jacobian, pointFor_of_isSubtier hderivable, hdebug]
  refine contract_of_call f.jacobianOf ?_ ?_ ?_ (fun t ↦ Function.jacobianOf_of_shape)
    fun t ↦ Function.outOfRange_of_jacobianOf
  · rintro e rfl
    rfl
  · rintro point rfl h
    have hrefused : f.jacobian false point = _ := Function.jacobian_of_unfit h
    rw [Function.provides_of_isSubtier hderivable] at hrefused
    exact ⟨_, hrefused, rfl⟩
  · rintro point rfl h
    exact Function.jacobian_of_shape hderivable h

/-- Without debug mode, hessians keep the contract of functions that promise them and are not linear. -/
theorem hessianContract (htwice : f.tier.isSubtier .twiceDerivable = true) (hlinear : f.tier ≠ .linear)
    (x : Reading Float (Tensor Float)) (i : Int) (hdebug : s.debug = false) :
    HessianContract f x i (answer (hessian f x i) s) := by
  rw [answer_hessian, pointFor_of_isSubtier htwice, hdebug]
  refine contract_of_call (f.matrixOf "impl_hessian" f.inputSize f.inputSize) ?_ ?_ ?_
    (fun t ↦ Function.matrixOf_of_shape) fun t h ↦ Function.outOfRange_of_returned h _
  · rintro e rfl
    rfl
  · rintro point rfl h
    have hrefused : f.hessian false point i = _ := Function.hessian_of_unfit h
    rw [Function.provides_of_isSubtier htwice] at hrefused
    change OutOfRange (f.hessian false point i)
    rw [hrefused]
    exact f.outOfRange_refusal point i
  · rintro point rfl ⟨h, hi⟩
    exact Function.hessian_of_shape htwice hlinear h hi

/-! ## What does not fit is refused without the parts -/

section Unconsulted

variable {t : Tier}

/-- What a tier promises is looked at first, the argument next. -/
theorem pointFor_bind_congr (h : f.SameFrame g) {k l : Tensor Float → Except (Error Float) β}
    (hsame : ∀ point, x = .ok point → l point = k point) : pointFor g t x >>= l = pointFor f t x >>= k := by
  unfold pointFor
  rw [h.provides_eq]
  cases f.provides t with
  | error e => rfl
  | ok u =>
    cases x with
    | error e => rfl
    | ok point => exact hsame point rfl

/-- At what is no point, functions of one frame are refused alike: their parts are not asked. -/
theorem answer_congr_of_not_isPoint (h : f.SameFrame g) (hx : ∀ point, x = .ok point → ¬IsPoint f point) :
    answer (evaluate g x) s = answer (evaluate f x) s ∧ answer (jacobian g x) s = answer (jacobian f x) s := by
  have hother : ∀ point, x = .ok point → point.shape ≠ [g.inputSize] := by
    intro point hpoint
    rw [h.inputSize]
    exact hx point hpoint
  constructor
  · rw [answer_evaluate, answer_evaluate]
    cases x with
    | error e => rfl
    | ok point =>
      change g.evaluate point = f.evaluate point
      rw [Function.evaluate_of_unfit (hother point rfl), Function.evaluate_of_unfit (hx point rfl), h.inputSize,
        h.label]
  · rw [answer_jacobian, answer_jacobian]
    refine pointFor_bind_congr h fun point hpoint ↦ ?_
    rw [Function.jacobian_of_unfit (hother point hpoint), Function.jacobian_of_unfit (hx point hpoint),
      h.provides_eq, h.inputSize, h.label]

/-- For an index that does not fit, functions of one frame are refused alike. -/
theorem answer_congr_of_unfit (h : f.SameFrame g)
    (hx : ∀ point, x = .ok point → ¬(IsPoint f point ∧ HasOutput f i)) :
    answer (gradient g x i) s = answer (gradient f x i) s ∧
      answer (hessian g x i) s = answer (hessian f x i) s := by
  have hother : ∀ point, x = .ok point → ¬(point.shape = [g.inputSize] ∧ 0 ≤ i ∧ i < g.outputSize) := by
    intro point hpoint
    rw [h.inputSize, h.outputSize]
    exact hx point hpoint
  constructor
  · rw [answer_gradient, answer_gradient]
    refine pointFor_bind_congr h fun point hpoint ↦ ?_
    rw [Function.gradient_of_unfit (hother point hpoint), Function.gradient_of_unfit (hx point hpoint),
      h.provides_eq, h.refusal_eq]
  · rw [answer_hessian, answer_hessian]
    refine pointFor_bind_congr h fun point hpoint ↦ ?_
    rw [Function.hessian_of_unfit (hother point hpoint), Function.hessian_of_unfit (hx point hpoint),
      h.provides_eq, h.refusal_eq]

end Unconsulted

/-- All methods of a function keep their contract when derivatives are not checked, whatever its parts return; the
parts of a user's function are the user's own. An argument or an index that does not fit is refused in the same way
for all functions of the same frame, so no part has been called by then. -/
theorem shapes_checked (hdebug : s.debug = false) (f : Function Float) (x : Reading Float (Tensor Float))
    (i : Int) :
    ValueContract f x (answer (evaluate f x) s) ∧
    (f.tier.isSubtier .derivable = true → GradientContract f x i (answer (gradient f x i) s) ∧
      JacobianContract f x (answer (jacobian f x) s)) ∧
    (f.tier.isSubtier .twiceDerivable = true → f.tier ≠ .linear →
      HessianContract f x i (answer (hessian f x i) s)) ∧
    ∀ g, f.SameFrame g →
      ((∀ point, x = .ok point → ¬IsPoint f point) →
        answer (evaluate g x) s = answer (evaluate f x) s ∧ answer (jacobian g x) s = answer (jacobian f x) s) ∧
      ((∀ point, x = .ok point → ¬(IsPoint f point ∧ HasOutput f i)) →
        answer (gradient g x i) s = answer (gradient f x i) s ∧
        answer (hessian g x i) s = answer (hessian f x i) s) := by
  refine ⟨valueContract f x s, fun hderivable ↦ ?_, fun htwice hlinear ↦ ?_, fun g hframe ↦ ?_⟩
  · exact ⟨gradientContract hderivable x i s, jacobianContract hderivable x hdebug⟩
  · exact hessianContract htwice hlinear x i hdebug
  · exact ⟨answer_congr_of_not_isPoint hframe, answer_congr_of_unfit hframe⟩

/-- A user's function of two arguments and one output whose parts return a scalar, a column, a vector, and rows of
unequal lengths. -/
def untidy : Custom Float where
  className := "Untidy"
  tier := .quadratic
  name := ""
  inputs := 2
  outputs := 1
  compute _ := .ok (.item 3)
  gradient _ _ := .ok (.ofRows [[1], [2]])
  jacobian := some fun _ ↦ .ok (.ofList [1, 2])
  hessian _ _ := .ok (.ofRows [[1, 0, 0], [0, 1, 0]])

/-- The first three are accepted, each by its own rule. The last is out of range, and so is the gradient of a
second output, also if all parts fail. -/
theorem shapes_checked_untidy :
    let f := Function.custom untidy
    let g := Function.custom { untidy with gradient := fun _ _ ↦ .error (.raised "RuntimeError" "") }
    let x : Reading Float (Tensor Float) := .ok (.vector [1, 2])
    let s : Session := {}
    (∃ y, answer (evaluate f x) s = .ok y) ∧ (∃ y, answer (gradient f x 0) s = .ok y) ∧
      (∃ y, answer (jacobian f x) s = .ok y) ∧ OutOfRange (answer (hessian f x 0) s) ∧
      OutOfRange (answer (gradient f x 1) s) ∧ answer (gradient g x 1) s = answer (gradient f x 1) s := by
  intro f g x s
  have hshapes (i : Int) := shapes_checked (s := s) rfl f x i
  have hframe : f.SameFrame g := ⟨rfl, rfl, rfl, rfl⟩
  obtain ⟨hvalue, hderivable, htwice, -⟩ := hshapes 0
  obtain ⟨-, hderivable', -, hunconsulted⟩ := hshapes 1
  have hnone : ∀ point, x = .ok point → ¬(IsPoint f point ∧ HasOutput f 1) := fun _ _ h ↦ absurd h.2.2 (by decide)
  refine ⟨?_, ?_, ?_, ?_, ?_, ((hunconsulted g hframe).2 hnone).1⟩
  · exact hvalue.answers_iff.2 ⟨_, .scalar 3, rfl, rfl, ⟨_, rfl, rfl⟩, .inr ⟨rfl, rfl⟩⟩
  · exact (hderivable rfl).1.answers_iff.2
      ⟨_, ⟨[2, 1], [1, 2], rfl⟩, rfl, ⟨rfl, by decide⟩, ⟨_, rfl, by rfl⟩, rfl⟩
  · exact (hderivable rfl).2.answers_iff.2 ⟨_, .vector [1, 2], rfl, rfl, ⟨_, rfl, by rfl⟩, .inr ⟨rfl, rfl⟩⟩
  · exact (htwice rfl (by decide)).returned _ ⟨[2, 3], [1, 0, 0, 0, 1, 0], rfl⟩ rfl ⟨rfl, by decide⟩
      ⟨_, rfl, by rfl⟩ (by decide)
  · exact (hderivable' rfl).1.argument _ rfl (hnone _ rfl)

end Session

end Extremum
