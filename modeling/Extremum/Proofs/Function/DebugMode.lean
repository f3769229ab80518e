import Extremum.Proofs.Binary64.Distance
import Extremum.Proofs.Entries
import Extremum.Proofs.Function.Jacobian

/-!
# Debug mode

Debug mode compares the rows of a jacobian with the gradients, and a hessian with its transpose. It looks at an answer
that is there already, so that it can refuse an answer but never give another one, and what was refused without it is
refused in the same way (`jacobian_of_debug`, `hessian_of_debug`). Rows are looked at in order, and asking for the
gradient of an output may fail itself: the first row that is not close to a gradient decides the error
(`checkRows_of_first`). Main statement: `debug_filters`.
-/

namespace Extremum

variable {α : Type}

/-- If not all entries of a list have a property, there is a first one that does not. -/
theorem exists_first_of_not_forall {xs : List α} {P : Nat → α → Prop} (h : ¬∀ k x, xs[k]? = some x → P k x) :
    ∃ k x, xs[k]? = some x ∧ ¬P k x ∧ ∀ j y, j < k → xs[j]? = some y → P j y := by
  classical
  have hexists : ∃ k x, xs[k]? = some x ∧ ¬P k x := by
    push Not at h
    exact h
  obtain ⟨x, hx, hfails⟩ := Nat.find_spec hexists
  refine ⟨Nat.find hexists, x, hx, hfails, fun j y hj hy ↦ ?_⟩
  by_contra hearlier
  exact Nat.find_min hexists hj ⟨y, hy, hearlier⟩

/-! ## Close vectors -/

section Close

variable [Scalar α]

/-- Two scalars are within the tolerances of debug mode of each other, if the second one is finite, or equal. -/
def Scalar.Near (v w : α) : Prop :=
  isFinite w = true ∧ abs (v - w) ≤ 1e-8 + 1e-5 * abs w ∨ (v == w) = true

theorem Scalar.near_iff {v w : α} : Near v w ↔ isClose 1e-5 1e-8 v w = true := by
  unfold Near isClose
  rw [Bool.or_eq_true, Bool.and_eq_true, decide_eq_true_iff, or_comm]

namespace Vec

variable {x y : List α}

/-- Each entry is within the tolerances of debug mode of the other one, if that is finite, or equal to it. -/
def Close (x y : List α) : Prop :=
  List.Forall₂ Scalar.Near x y

theorem isClose?_of_length (h : x.length = y.length) (rtol atol : α) : isClose? rtol atol x y =
    some ((x.zip y).all fun (v, w) ↦ Scalar.isClose rtol atol v w) := by
  unfold isClose?
  exact if_pos h

/-- Vectors of one length are close exactly if debug mode takes one for the other. -/
theorem close_iff (h : x.length = y.length) : Close x y ↔ isClose? 1e-5 1e-8 x y = some true := by
  rw [isClose?_of_length h, Option.some.injEq, List.all_eq_true, Close, List.forall₂_iff_zip, and_iff_right h]
  constructor
  · rintro hclose ⟨v, w⟩ hpair
    exact Scalar.near_iff.1 (hclose hpair)
  · intro hclose v w hpair
    exact Scalar.near_iff.2 (hclose (v, w) hpair)

end Vec

end Close

namespace Function

variable {f : Function α}

/-! ## Answers of known size -/

theorem returned_eq_ok_iff {hook : String} {expected : List Nat} {t u : Tensor α} :
    f.returned hook expected t = .ok u ↔ t.shape = expected ∧ t = u := by
  unfold returned
  by_cases h : t.shape = expected
  · rw [if_pos h, and_iff_right h, Except.ok.injEq]
  · rw [if_neg h]
    constructor
    · intro hrefused
      cases hrefused
    · intro hshape
      exact absurd hshape.1 h

variable [Scalar α] {point : Tensor α} {i : Int}

/-- Gradients have an entry for each argument, whatever the part returned. -/
theorem length_of_gradient {slope : List α} (h : f.gradient point i = .ok slope) : slope.length = f.inputSize := by
  unfold gradient at h
  obtain ⟨-, -, h⟩ := Reading.bind_eq_ok_iff.1 h
  obtain ⟨x, -, h⟩ := Reading.bind_eq_ok_iff.1 h
  obtain ⟨k, -, h⟩ := Reading.bind_eq_ok_iff.1 h
  obtain ⟨raw, -, h⟩ := Reading.bind_eq_ok_iff.1 h
  obtain ⟨t, -, h⟩ := Reading.bind_eq_ok_iff.1 h
  obtain ⟨u, hu, h⟩ := Reading.bind_eq_ok_iff.1 h
  obtain ⟨hshape, rfl⟩ := returned_eq_ok_iff.1 hu
  cases h
  exact List.head_eq_of_cons_eq hshape

/-- Jacobians have a column for each argument. -/
theorem width_of_jacobian {a : Matrix α} (h : f.jacobian false point = .ok a) : a.width = f.inputSize := by
  unfold jacobian at h
  obtain ⟨-, -, h⟩ := Reading.bind_eq_ok_iff.1 h
  obtain ⟨x, -, h⟩ := Reading.bind_eq_ok_iff.1 h
  obtain ⟨raw, -, h⟩ := Reading.bind_eq_ok_iff.1 h
  obtain ⟨t, -, h⟩ := Reading.bind_eq_ok_iff.1 h
  dsimp only at h
  obtain ⟨u, hu, h⟩ := Reading.bind_eq_ok_iff.1 h
  obtain ⟨hshape, rfl⟩ := returned_eq_ok_iff.1 hu
  obtain ⟨b, hb, -, hwidth, -⟩ := Matrix.exists_ofTensor? hshape
  rw [hb] at h
  cases h
  exact hwidth

/-! ## Rows -/

/-- There is a gradient, and the row is close to it. -/
def RowHolds (slope : Except (Error α) (List α)) (row : List α) : Prop :=
  ∃ g, slope = .ok g ∧ Vec.Close row g

def checkRow (f : Function α) (point : Tensor α) (entry : List α × Nat) : Except (Error α) Unit := do
  match Vec.isClose? 1e-5 1e-8 entry.1 (← f.gradient point entry.2) with
  | some true => return ()
  | some false => throw (.rowMismatch entry.2 f.label)
  | none => throw (.unfit .value)

theorem checkRows_eq (f : Function α) (point : Tensor α) (rows : List (List α)) :
    f.checkRows point rows = rows.zipIdx.forM (f.checkRow point) := rfl

section Rows

variable {row slope : List α} {k : Nat} {e : Error α}

theorem checkRow_of_error (h : f.gradient point k = .error e) : f.checkRow point (row, k) = .error e := by
  unfold checkRow
  rw [h]
  rfl

theorem checkRow_of_isClose? {close : Bool} (h : f.gradient point k = .ok slope)
    (hclose : Vec.isClose? 1e-5 1e-8 row slope = some close) :
    f.checkRow point (row, k) = if close then .ok () else .error (.rowMismatch k f.label) := by
  unfold checkRow
  rw [h]
  dsimp only [bind, Except.bind]
  rw [hclose]
  cases close <;> rfl

/-- A row that is far from its gradient is reported with its number. -/
theorem checkRow_of_not_close (hlength : row.length = f.inputSize) (h : f.gradient point k = .ok slope)
    (hfar : ¬Vec.Close row slope) : f.checkRow point (row, k) = .error (.rowMismatch k f.label) := by
  have hsame : row.length = slope.length := hlength.trans (length_of_gradient h).symm
  rw [Vec.close_iff hsame, Vec.isClose?_of_length hsame, Option.some.injEq, Bool.not_eq_true] at hfar
  have hclose := Vec.isClose?_of_length hsame (1e-5 : α) 1e-8
  rw [hfar] at hclose
  exact checkRow_of_isClose? h hclose

theorem checkRow_eq_ok_iff (hlength : row.length = f.inputSize) :
    f.checkRow point (row, k) = .ok () ↔ RowHolds (f.gradient point k) row := by
  cases hgradient : f.gradient point k with
  | error e =>
    rw [checkRow_of_error hgradient]
    constructor
    · intro h
      cases h
    · rintro ⟨g, hg, -⟩
      cases hg
  | ok slope =>
    by_cases hclose : Vec.Close row slope
    · have hsame : row.length = slope.length := hlength.trans (length_of_gradient hgradient).symm
      have hpasses := checkRow_of_isClose? hgradient ((Vec.close_iff hsame).1 hclose)
      exact iff_of_true hpasses ⟨slope, rfl, hclose⟩
    · rw [checkRow_of_not_close hlength hgradient hclose]
      constructor
      · intro h
        cases h
      · rintro ⟨g, hg, hg'⟩
        cases hg
        exact absurd hg' hclose

end Rows

section Matrices

variable {a : Matrix α} {row slope : List α} {k : Nat} {e : Error α}

/-- The check passes exactly the matrices whose rows are all close to their gradients. -/
theorem checkRows_eq_ok_iff (hwidth : a.width = f.inputSize) : f.checkRows point a.rows = .ok () ↔
    ∀ (k : Nat) row, a.rows[k]? = some row → RowHolds (f.gradient point k) row := by
  have hlength {row : List α} {k : Nat} (hrow : a.rows[k]? = some row) : row.length = f.inputSize :=
    (Matrix.length_of_getElem? hrow).trans hwidth
  rw [checkRows_eq, Reading.forM_eq_ok_iff]
  constructor
  · intro h k row hrow
    exact (checkRow_eq_ok_iff (hlength hrow)).1 (h (row, k) (List.mem_zipIdx_iff_getElem?.2 hrow))
  · rintro h ⟨row, k⟩ hentry
    have hrow := List.mem_zipIdx_iff_getElem?.1 hentry
    exact (checkRow_eq_ok_iff (hlength hrow)).2 (h k row hrow)

/-- The first row that does not hold decides what the check of all of them fails with. -/
theorem checkRows_of_first (hwidth : a.width = f.inputSize)
    (hbefore : ∀ j row, j < k → a.rows[j]? = some row → RowHolds (f.gradient point j) row)
    (hrow : a.rows[k]? = some row) (hfails : f.checkRow point (row, k) = .error e) :
    f.checkRows point a.rows = .error e := by
  rw [checkRows_eq]
  refine Reading.forM_eq_error (k := k) ?_ ?_ hfails
  · intro j entry hj hentry
    rw [List.getElem?_zipIdx, Nat.zero_add] at hentry
    obtain ⟨other, hother, rfl⟩ := Option.map_eq_some_iff.1 hentry
    have hlength : other.length = f.inputSize := (Matrix.length_of_getElem? hother).trans hwidth
    exact (checkRow_eq_ok_iff hlength).2 (hbefore j other hj hother)
  · rw [List.getElem?_zipIdx, Nat.zero_add, hrow]
    rfl

end Matrices

/-! ## Jacobians -/

section Jacobians

variable {a : Matrix α} {row : List α} {k : Nat} {e : Error α}

theorem jacobian_of_debug_error (h : f.jacobian false point = .error e) : f.jacobian true point = .error e := by
  rw [jacobian_of_debug, h]
  rfl

/-- Debug mode answers with the jacobian that is answered without it, if its rows are the gradients. -/
theorem jacobian_debug_eq_ok_iff : f.jacobian true point = .ok a ↔ f.jacobian false point = .ok a ∧
    ∀ (k : Nat) row, a.rows[k]? = some row → RowHolds (f.gradient point k) row := by
  rw [jacobian_of_debug, Reading.bind_eq_ok_iff]
  constructor
  · rintro ⟨b, hb, h⟩
    obtain ⟨⟨⟩, hchecked, h⟩ := Reading.bind_eq_ok_iff.1 h
    cases h
    exact ⟨hb, (checkRows_eq_ok_iff (width_of_jacobian hb)).1 hchecked⟩
  · rintro ⟨ha, hrows⟩
    refine ⟨a, ha, ?_⟩
    rw [(checkRows_eq_ok_iff (width_of_jacobian ha)).2 hrows]
    rfl

/-- The first row that fails decides with what the whole fails. -/
theorem jacobian_of_first (ha : f.jacobian false point = .ok a)
    (hbefore : ∀ j row, j < k → a.rows[j]? = some row → RowHolds (f.gradient point j) row)
    (hrow : a.rows[k]? = some row) (hfails : f.checkRow point (row, k) = .error e) :
    f.jacobian true point = .error e := by
  have hchecked := checkRows_of_first (width_of_jacobian ha) hbefore hrow hfails
  rw [jacobian_of_debug, ha]
  dsimp only [bind, Except.bind]
  rw [hchecked]

end Jacobians

/-! ## Hessians -/

/-- What debug mode makes of a hessian. -/
def checkedHessian (a : Matrix α) : Except (Error α) (Matrix α) :=
  if a.isSymmetric 0 symmetryTolerance then .ok a else .error (.asymmetric "1e-08" a.asymmetry)

theorem isSymmetric_of_square {t : Tensor α} {a : Matrix α} (ha : Matrix.ofTensor? t = some a)
    (hsquare : a.height = a.width) (tolerance : α) : isSymmetric t tolerance = a.isSymmetric 0 tolerance := by
  unfold isSymmetric
  rw [ha]
  dsimp only
  rw [hsquare, beq_self_eq_true, Bool.true_and]

/-- A square matrix passes the check, or is refused with its deviation from symmetry. -/
theorem checkHessian_of_square {t : Tensor α} {a : Matrix α} (ha : Matrix.ofTensor? t = some a)
    (hsquare : a.height = a.width) : (checkHessian t >>= fun _ ↦ .ok a) = checkedHessian a := by
  unfold checkHessian assertSymmetric checkedHessian
  rw [ha]
  dsimp only
  rw [if_neg (not_not.2 hsquare), isSymmetric_of_square ha hsquare]
  cases a.isSymmetric 0 symmetryTolerance <;> rfl

/-- Debug mode adds a check of symmetry to what happens without it. -/
theorem hessian_of_debug (hlinear : f.tier ≠ .linear) : f.hessian true point i =
    f.hessian false point i >>= checkedHessian := by
  unfold hessian
  simp only [bind_assoc, if_neg hlinear]
  refine bind_congr fun _ ↦ bind_congr fun x ↦ bind_congr fun k ↦ bind_congr fun raw ↦ bind_congr fun t ↦ ?_
  by_cases hshape : t.shape = [f.inputSize, f.inputSize]
  · obtain ⟨a, ha, hheight, hwidth, -⟩ := Matrix.exists_ofTensor? hshape
    have hchecked := checkHessian_of_square ha (hheight.trans hwidth.symm)
    rw [returned_of_shape hshape]
    dsimp only [bind, Except.bind]
    rw [ha]
    exact hchecked
  · unfold returned
    rw [if_neg hshape]
    rfl

theorem hessian_of_linear (hlinear : f.tier = .linear) (debug : Bool) :
    f.hessian debug point i = f.hessian false point i := by
  unfold hessian
  simp only [if_pos hlinear]

/-- Linear functions have no other hessian than zeros. -/
theorem zeros_of_hessian {debug : Bool} {a : Matrix α} (hlinear : f.tier = .linear)
    (h : f.hessian debug point i = .ok a) : a = Matrix.zeros f.inputSize f.inputSize := by
  unfold hessian at h
  obtain ⟨-, -, h⟩ := Reading.bind_eq_ok_iff.1 h
  obtain ⟨x, -, h⟩ := Reading.bind_eq_ok_iff.1 h
  obtain ⟨k, -, h⟩ := Reading.bind_eq_ok_iff.1 h
  rw [if_pos hlinear] at h
  cases h
  rfl

/-- Without debug mode, a hessian is the zero matrix or one that came from a part; either way it is square. -/
theorem sides_of_hessian {a : Matrix α} (h : f.hessian false point i = .ok a) :
    a.height = f.inputSize ∧ a.width = f.inputSize := by
  unfold hessian at h
  obtain ⟨-, -, h⟩ := Reading.bind_eq_ok_iff.1 h
  obtain ⟨x, -, h⟩ := Reading.bind_eq_ok_iff.1 h
  obtain ⟨k, -, h⟩ := Reading.bind_eq_ok_iff.1 h
  split at h
  · cases h
    exact ⟨List.length_replicate, rfl⟩
  · obtain ⟨raw, -, h⟩ := Reading.bind_eq_ok_iff.1 h
    obtain ⟨t, -, h⟩ := Reading.bind_eq_ok_iff.1 h
    obtain ⟨u, hu, h⟩ := Reading.bind_eq_ok_iff.1 h
    obtain ⟨hshape, rfl⟩ := returned_eq_ok_iff.1 hu
    obtain ⟨b, hb, hheight, hwidth, -⟩ := Matrix.exists_ofTensor? hshape
    rw [if_neg Bool.false_ne_true, hb] at h
    cases h
    exact ⟨hheight, hwidth⟩

end Function

/-! ## Hessians of doubles -/

/-- Each entry is within the tolerance of debug mode of the one across the diagonal, or equal to it. -/
def Matrix.NearlySymmetric (a : Matrix Float) : Prop :=
  ∀ j k v w, a.entry? j k = some v → a.entry? k j = some w → (v - w).abs ≤ 1e-8 ∨ (v == w) = true

theorem Matrix.isSymmetric_iff_nearlySymmetric {a : Matrix Float} (hsquare : a.height = a.width) :
    a.isSymmetric 0 Function.symmetryTolerance = true ↔ a.NearlySymmetric := by
  have hfinite : (Function.symmetryTolerance : Float).isFinite = true := by decide
  rw [isSymmetric_iff hsquare]
  refine forall_congr' fun j ↦ forall_congr' fun k ↦ forall_congr' fun v ↦ forall_congr' fun w ↦ ?_
  refine imp_congr_right fun _ ↦ imp_congr_right fun _ ↦ ?_
  exact Binary64.isClose_zero_iff hfinite

theorem Matrix.nearlySymmetric_zeros (m n : Nat) : (Matrix.zeros m n : Matrix Float).NearlySymmetric := by
  have hzero {j k : Nat} {v : Float} (hv : Matrix.entry? (Matrix.zeros m n) j k = some v) : v = 0 := by
    obtain ⟨row, hrow, hv⟩ := entry?_eq_some_iff.1 hv
    rw [List.eq_of_mem_replicate (List.mem_of_getElem? hrow)] at hv
    exact List.eq_of_mem_replicate (List.mem_of_getElem? hv)
  intro j k v w hv hw
  rw [hzero hv, hzero hw]
  exact .inr (by decide)

namespace Function

variable {f : Function Float} {point : Tensor Float} {i : Int} {a : Matrix Float}

/-- Debug mode answers with the hessian that is answered without it, if it is nearly symmetric. -/
theorem hessian_debug_eq_ok_iff : f.hessian true point i = .ok a ↔
    f.hessian false point i = .ok a ∧ a.NearlySymmetric := by
  by_cases hlinear : f.tier = .linear
  · rw [hessian_of_linear hlinear]
    refine (and_iff_left_of_imp fun h ↦ ?_).symm
    rw [zeros_of_hessian hlinear h]
    exact Matrix.nearlySymmetric_zeros _ _
  · have hchecked {b : Matrix Float} (hb : f.hessian false point i = .ok b) :
        checkedHessian b = .ok a ↔ b.NearlySymmetric ∧ b = a := by
      obtain ⟨hheight, hwidth⟩ := sides_of_hessian hb
      rw [← Matrix.isSymmetric_iff_nearlySymmetric (hheight.trans hwidth.symm)]
      unfold checkedHessian
      cases b.isSymmetric 0 symmetryTolerance <;> simp
    rw [hessian_of_debug hlinear, Reading.bind_eq_ok_iff]
    constructor
    · rintro ⟨b, hb, h⟩
      obtain ⟨hsymmetric, rfl⟩ := (hchecked hb).1 h
      exact ⟨hb, hsymmetric⟩
    · rintro ⟨ha, hsymmetric⟩
      exact ⟨a, ha, (hchecked ha).2 ⟨hsymmetric, rfl⟩⟩

/-- A hessian that is not symmetric is refused with its deviation. -/
theorem hessian_of_asymmetric (ha : f.hessian false point i = .ok a) (h : ¬a.NearlySymmetric) :
    f.hessian true point i = .error (.asymmetric "1e-08" a.asymmetry) := by
  have hlinear : f.tier ≠ .linear := by
    intro hlinear
    rw [zeros_of_hessian hlinear ha] at h
    exact h (Matrix.nearlySymmetric_zeros _ _)
  obtain ⟨hheight, hwidth⟩ := sides_of_hessian ha
  rw [← Matrix.isSymmetric_iff_nearlySymmetric (hheight.trans hwidth.symm)] at h
  rw [hessian_of_debug hlinear, ha]
  exact if_neg h

/-- What is refused without debug mode is refused in the same way with it. -/
theorem hessian_of_debug_error {e : Error Float} (h : f.hessian false point i = .error e) :
    f.hessian true point i = .error e := by
  by_cases hlinear : f.tier = .linear
  · rw [hessian_of_linear hlinear, h]
  · rw [hessian_of_debug hlinear, h]
    rfl

end Function

namespace Session

variable {f : Function Float} {x : Reading Float (Tensor Float)} {i : Int} {s : Session}

/-! ## In a session -/

def checked (s : Session) : Session :=
  { s with debug := true }

def unchecked (s : Session) : Session :=
  { s with debug := false }

/-- Why a row of a jacobian is refused: there is no gradient, or the row is not close to it. -/
inductive RowFault (f : Function Float) (x : Reading Float (Tensor Float)) (s : Session) (k : Nat)
    (row : List Float) (e : Error Float) : Prop
  | missing (h : answer (gradient f x k) s = .error e)
  | far (slope : List Float) (h : answer (gradient f x k) s = .ok slope) (hfar : ¬Vec.Close row slope)
    (hkind : e.kindName = Kind.value.name)
    (hmessage : e.message? = some
      ("Jacobian row " ++ toString k ++ " of " ++ f.label ++ " does not match its gradient"))

/-- What debug mode makes of the methods of a function. -/
structure Filtered (f : Function Float) (x : Reading Float (Tensor Float)) (i : Int) (s : Session) : Prop where
  value : answer (evaluate f x) s.checked = answer (evaluate f x) s.unchecked
  slope : answer (gradient f x i) s.checked = answer (gradient f x i) s.unchecked
  /-- A jacobian passes exactly if there are all gradients and its rows are close to them. -/
  jacobian_iff : ∀ a, answer (jacobian f x) s.checked = .ok a ↔ answer (jacobian f x) s.unchecked = .ok a ∧
    ∀ (k : Nat) row, a.rows[k]? = some row → Function.RowHolds (answer (gradient f x k) s) row
  /-- Otherwise the first row that is not decides the error. -/
  jacobian_fault : ∀ a, answer (jacobian f x) s.unchecked = .ok a →
    (¬∀ (k : Nat) row, a.rows[k]? = some row → Function.RowHolds (answer (gradient f x k) s) row) →
    ∃ k row e, a.rows[k]? = some row ∧ RowFault f x s k row e ∧ answer (jacobian f x) s.checked = .error e ∧
      ∀ j row, j < k → a.rows[j]? = some row → Function.RowHolds (answer (gradient f x j) s) row
  /-- A hessian passes exactly if it is symmetric. -/
  hessian_iff : ∀ a, answer (hessian f x i) s.checked = .ok a ↔
    answer (hessian f x i) s.unchecked = .ok a ∧ a.NearlySymmetric
  /-- Otherwise it is refused. -/
  hessian_fault : ∀ a, answer (hessian f x i) s.unchecked = .ok a → ¬a.NearlySymmetric →
    ∃ e, answer (hessian f x i) s.checked = .error e ∧ e.kindName = Kind.value.name
  /-- Hessians of linear functions are not looked at. -/
  linear : f.tier = .linear → answer (hessian f x i) s.checked = answer (hessian f x i) s.unchecked
  /-- What is refused without debug mode is refused in the same way. -/
  refused : ∀ e, (answer (jacobian f x) s.unchecked = .error e → answer (jacobian f x) s.checked = .error e) ∧
    (answer (hessian f x i) s.unchecked = .error e → answer (hessian f x i) s.checked = .error e)
  /-- No call changes the session, and with it the debug mode. -/
  session : (perform (evaluate f x) s).2 = s ∧ (perform (gradient f x i) s).2 = s ∧
    (perform (jacobian f x) s).2 = s ∧ (perform (hessian f x i) s).2 = s

theorem keeps_eq_lift {β : Type} (result : Except (Error Float) β) : Keeps Eq (lift result) := by
  intro s
  rw [perform_lift]

/-- What derivatives answer once the argument has been read. -/
theorem answers_of_point {point : Tensor Float} (h : pointFor f .derivable x = .ok point) (s : Session) :
    answer (jacobian f x) s = f.jacobian s.debug point ∧
      ∀ k : Nat, answer (gradient f x k) s = f.gradient point k := by
  constructor
  · rw [answer_jacobian, h]
    rfl
  · intro k
    rw [answer_gradient, h]
    rfl

theorem jacobian_checked_eq_ok_iff {a : Matrix Float} : answer (jacobian f x) s.checked = .ok a ↔
    answer (jacobian f x) s.unchecked = .ok a ∧
      ∀ (k : Nat) row, a.rows[k]? = some row → Function.RowHolds (answer (gradient f x k) s) row := by
  cases hpoint : pointFor f .derivable x with
  | error e =>
    rw [answer_jacobian, answer_jacobian, hpoint]
    constructor
    · intro h
      cases h
    · rintro ⟨h, -⟩
      cases h
  | ok point =>
    rw [(answers_of_point hpoint s.checked).1, (answers_of_point hpoint s.unchecked).1]
    simp only [(answers_of_point hpoint s).2]
    exact Function.jacobian_debug_eq_ok_iff

/-- A jacobian that is refused in debug mode only has a row that is the first to fail. -/
theorem exists_rowFault {a : Matrix Float} (ha : answer (jacobian f x) s.unchecked = .ok a)
    (h : ¬∀ (k : Nat) row, a.rows[k]? = some row → Function.RowHolds (answer (gradient f x k) s) row) :
    ∃ k row e, a.rows[k]? = some row ∧ RowFault f x s k row e ∧ answer (jacobian f x) s.checked = .error e ∧
      ∀ j row, j < k → a.rows[j]? = some row → Function.RowHolds (answer (gradient f x j) s) row := by
  obtain ⟨k, row, hrow, hfails, hbefore⟩ := exists_first_of_not_forall h
  cases hpoint : pointFor f .derivable x with
  | error e =>
    rw [answer_jacobian, hpoint] at ha
    cases ha
  | ok point =>
    obtain ⟨hchecked, -⟩ := answers_of_point hpoint s.checked
    obtain ⟨-, hgradients⟩ := answers_of_point hpoint s
    rw [(answers_of_point hpoint s.unchecked).1] at ha
    simp only [hgradients] at hfails hbefore
    cases hgradient : f.gradient point k with
    | error e =>
      refine ⟨k, row, e, hrow, .missing ((hgradients k).trans hgradient), ?_, ?_⟩
      · rw [hchecked]
        exact Function.jacobian_of_first ha hbefore hrow (Function.checkRow_of_error hgradient)
      · simp only [hgradients]
        exact hbefore
    | ok slope =>
      have hlength : row.length = f.inputSize :=
        (Matrix.length_of_getElem? hrow).trans (Function.width_of_jacobian ha)
      have hfar : ¬Vec.Close row slope := fun hclose ↦ hfails ⟨slope, hgradient, hclose⟩
      refine ⟨k, row, .rowMismatch k f.label, hrow, .far slope ((hgradients k).trans hgradient) hfar rfl rfl, ?_, ?_⟩
      · rw [hchecked]
        exact Function.jacobian_of_first ha hbefore hrow (Function.checkRow_of_not_close hlength hgradient hfar)
      · simp only [hgradients]
        exact hbefore

theorem answer_hessian_of_point {point : Tensor Float} (h : pointFor f .twiceDerivable x = .ok point)
    (s : Session) : answer (hessian f x i) s = f.hessian s.debug point i := by
  rw [answer_hessian, h]
  rfl

section Hessians

variable {a : Matrix Float}

theorem hessian_checked_eq_ok_iff : answer (hessian f x i) s.checked = .ok a ↔
    answer (hessian f x i) s.unchecked = .ok a ∧ a.NearlySymmetric := by
  cases hpoint : pointFor f .twiceDerivable x with
  | error e =>
    rw [answer_hessian, answer_hessian, hpoint]
    constructor
    · intro h
      cases h
    · rintro ⟨h, -⟩
      cases h
  | ok point =>
    rw [answer_hessian_of_point hpoint, answer_hessian_of_point hpoint]
    exact Function.hessian_debug_eq_ok_iff

/-- A hessian that is far from symmetric is refused with its deviation. -/
theorem hessian_checked_of_asymmetric (ha : answer (hessian f x i) s.unchecked = .ok a)
    (h : ¬a.NearlySymmetric) : answer (hessian f x i) s.checked = .error (.asymmetric "1e-08" a.asymmetry) := by
  cases hpoint : pointFor f .twiceDerivable x with
  | error e =>
    rw [answer_hessian, hpoint] at ha
    cases ha
  | ok point =>
    rw [answer_hessian_of_point hpoint] at ha ⊢
    exact Function.hessian_of_asymmetric ha h

end Hessians

/-- What is refused without debug mode is refused in the same way with it. -/
theorem checked_of_unchecked_error (e : Error Float) :
    (answer (jacobian f x) s.unchecked = .error e → answer (jacobian f x) s.checked = .error e) ∧
      (answer (hessian f x i) s.unchecked = .error e → answer (hessian f x i) s.checked = .error e) := by
  simp only [answer_jacobian, answer_hessian]
  constructor
  · cases pointFor f .derivable x with
    | error e' => exact id
    | ok point => exact Function.jacobian_of_debug_error
  · cases pointFor f .twiceDerivable x with
    | error e' => exact id
    | ok point => exact Function.hessian_of_debug_error

theorem checked_hessian_of_linear (hlinear : f.tier = .linear) :
    answer (hessian f x i) s.checked = answer (hessian f x i) s.unchecked := by
  rw [answer_hessian, answer_hessian]
  cases pointFor f .twiceDerivable x with
  | error e => rfl
  | ok point => exact Function.hessian_of_linear hlinear true

/-- Asking for values and derivatives changes nothing. -/
theorem keeps_eq_evaluating (f : Function Float) (x : Reading Float (Tensor Float)) (i : Int) :
    Keeps Eq (evaluate f x) ∧ Keeps Eq (gradient f x i) ∧ Keeps Eq (jacobian f x) ∧ Keeps Eq (hessian f x i) := by
  refine ⟨?_, ?_, ?_, ?_⟩
  · exact Keeps.bind (keeps_eq_lift _) fun point ↦ keeps_eq_lift _
  · exact Keeps.bind (keeps_eq_lift _) fun point ↦ keeps_eq_lift _
  · exact Keeps.bind (keeps_eq_lift _) fun point ↦ Keeps.bind Keeps.get fun s ↦ keeps_eq_lift _
  · exact Keeps.bind (keeps_eq_lift _) fun point ↦ Keeps.bind Keeps.get fun s ↦ keeps_eq_lift _

/-- Debug mode refuses some jacobians and hessians, and changes nothing else: not what is answered, not what was
refused before, and not the session. -/
theorem debug_filters (f : Function Float) (x : Reading Float (Tensor Float)) (i : Int) (s : Session) :
    Filtered f x i s := by
  obtain ⟨hvalue, hslope, hjacobian, hhessian⟩ := keeps_eq_evaluating f x i
  refine ⟨?_, ?_, fun a ↦ jacobian_checked_eq_ok_iff, fun a ↦ exists_rowFault,
    fun a ↦ hessian_checked_eq_ok_iff, fun a ha h ↦ ?_, checked_hessian_of_linear, checked_of_unchecked_error, ?_⟩
  · rw [answer_evaluate, answer_evaluate]
  · rw [answer_gradient, answer_gradient]
  · exact ⟨_, hessian_checked_of_asymmetric ha h, rfl⟩
  · exact ⟨(hvalue s).symm, (hslope s).symm, (hjacobian s).symm, (hhessian s).symm⟩

end Session

end Extremum
