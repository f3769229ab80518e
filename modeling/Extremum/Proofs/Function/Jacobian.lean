import Extremum.Function.Hooks
import Extremum.Proofs.Binary64.Arithmetic
import Extremum.Proofs.Function.Shape

/-!
# Jacobians and gradients

A jacobian is computed in one piece and its shape is checked once; a gradient is computed and checked on its own.
A function that leaves its jacobian to the library has its gradients stacked, and the library's own functions have
a matrix at hand. Either way the jacobian is the matrix of the gradients, and there is one exactly if all gradients
are there (`answer_jacobian_eq_gradients_iff`). The checks of debug mode find nothing then, unless an entry is
undefined and thus not even equal to itself. Main statement: `jacobian_of_gradients`.
-/

namespace Extremum

variable {α : Type}

namespace Function

variable {f : Function α}

/-! ## Functions that were built

A function has at least one input and at least one output, whichever constructor it comes from.
-/

/-- Sizes that are accepted are the given ones, and positive. -/
theorem sizes_of_checkSizes {inputs outputs : Written α Int} {sizes : Nat × Nat}
    (h : checkSizes inputs outputs = .ok sizes) : (0 < sizes.1 ∧ inputs.value = .ok (sizes.1 : Int)) ∧
      0 < sizes.2 ∧ outputs.value = .ok (sizes.2 : Int) := by
  have htoNat {size : Int} (hsize : ¬size < 1) : 0 < size.toNat ∧ (size.toNat : Int) = size := by omega
  unfold checkSizes at h
  obtain ⟨n, hn, h⟩ := Reading.bind_eq_ok_iff.1 h
  split at h
  · cases h
  rename_i hinputs
  obtain ⟨m, hm, h⟩ := Reading.bind_eq_ok_iff.1 h
  split at h
  · cases h
  rename_i houtputs
  cases h
  refine ⟨⟨(htoNat hinputs).1, ?_⟩, (htoNat houtputs).1, ?_⟩
  · rw [hn, (htoNat hinputs).2]
  · rw [hm, (htoNat houtputs).2]

theorem pos_of_checkSizes {inputs outputs : Written α Int} {sizes : Nat × Nat}
    (h : checkSizes inputs outputs = .ok sizes) : 0 < sizes.1 ∧ 0 < sizes.2 :=
  ⟨(sizes_of_checkSizes h).1.1, (sizes_of_checkSizes h).2.1⟩

theorem inputs_of_checkSizes {n : Nat} {outputs : Written α Int} {sizes : Nat × Nat}
    (h : checkSizes (.ofNat n) outputs = .ok sizes) : n = sizes.1 :=
  Int.ofNat.inj (Except.ok.inj (sizes_of_checkSizes h).1.2)

theorem outputs_of_checkSizes {inputs : Written α Int} {m : Nat} {sizes : Nat × Nat}
    (h : checkSizes inputs (.ofNat m) = .ok sizes) : m = sizes.2 :=
  Int.ofNat.inj (Except.ok.inj (sizes_of_checkSizes h).2.2)

theorem checkSizes_ofNat {n m : Nat} (hn : 0 < n) (hm : 0 < m) :
    checkSizes (α := α) (.ofNat n) (.ofNat m) = .ok (n, m) := by
  have hinputs : ¬(n : Int) < 1 := by omega
  have houtputs : ¬(m : Int) < 1 := by omega
  unfold checkSizes
  simp only [Written.ofNat, bind, Except.bind]
  rw [if_neg hinputs, if_neg houtputs]
  rfl

theorem ofMatrix_tensor (map : Affine α) (hn : 0 < map.matrix.width) (hm : 0 < map.matrix.height) (name : String) :
    ofMatrix (.ok map.matrix.tensor) (.ok (.vector map.offset)) name = .ok (.affine name map) := by
  have hoffset : (Tensor.vector map.offset).data.length = map.matrix.height := map.length_offset
  unfold ofMatrix
  dsimp only [bind, Except.bind]
  rw [Matrix.ofTensor?_tensor]
  dsimp only
  rw [dif_pos hoffset, checkSizes_ofNat hn hm]
  rfl

theorem ofExpressions_eq {n m : Nat} (hn : 0 < n) (hm : 0 < m) (formula : Nested (Expr α)) (name : String) :
    ofExpressions (.ofNat n) (.ofNat m) formula name = .ok (.symbolic name n m formula) := by
  unfold ofExpressions
  rw [checkSizes_ofNat hn hm]
  rfl

theorem sizes_pos_of_ofMatrix {a b : Reading α (Tensor α)} {name : String} (h : ofMatrix a b name = .ok f) :
    0 < f.inputSize ∧ 0 < f.outputSize := by
  unfold ofMatrix at h
  obtain ⟨t, -, h⟩ := Reading.bind_eq_ok_iff.1 h
  split at h
  · cases h
  rename_i matrix _
  obtain ⟨u, -, h⟩ := Reading.bind_eq_ok_iff.1 h
  split at h
  · obtain ⟨sizes, hsizes, h⟩ := Reading.bind_eq_ok_iff.1 h
    cases h
    change 0 < matrix.width ∧ 0 < matrix.height
    rw [inputs_of_checkSizes hsizes, outputs_of_checkSizes hsizes]
    exact pos_of_checkSizes hsizes
  · cases h

theorem sizes_pos_of_ofConstant {inputs : Written α Int} {value : Reading α (Tensor α)} {name : String}
    (h : ofConstant inputs value name = .ok f) : 0 < f.inputSize ∧ 0 < f.outputSize := by
  unfold ofConstant at h
  obtain ⟨t, -, h⟩ := Reading.bind_eq_ok_iff.1 h
  obtain ⟨sizes, hsizes, h⟩ := Reading.bind_eq_ok_iff.1 h
  cases h
  change 0 < sizes.1 ∧ 0 < t.data.length
  rw [outputs_of_checkSizes hsizes]
  exact pos_of_checkSizes hsizes

theorem sizes_pos_of_ofShift {offset : Reading α (Tensor α)} {name : String}
    (h : ofShift offset name = .ok f) : 0 < f.inputSize ∧ 0 < f.outputSize := by
  unfold ofShift at h
  obtain ⟨t, -, h⟩ := Reading.bind_eq_ok_iff.1 h
  obtain ⟨sizes, hsizes, h⟩ := Reading.bind_eq_ok_iff.1 h
  cases h
  have hlength : 0 < t.data.length := by
    rw [outputs_of_checkSizes hsizes]
    exact (pos_of_checkSizes hsizes).2
  exact ⟨hlength, hlength⟩

theorem sizes_pos_of_ofExpressions {inputs outputs : Written α Int} {formula : Nested (Expr α)}
    {name : String} (h : ofExpressions inputs outputs formula name = .ok f) : 0 < f.inputSize ∧ 0 < f.outputSize := by
  unfold ofExpressions at h
  obtain ⟨sizes, hsizes, h⟩ := Reading.bind_eq_ok_iff.1 h
  cases h
  exact pos_of_checkSizes hsizes

theorem sizes_pos_of_ofHooks {hooks : Hooks α} (h : ofHooks hooks = .ok f) : 0 < f.inputSize ∧ 0 < f.outputSize := by
  unfold ofHooks at h
  obtain ⟨c, -, h⟩ := Reading.bind_eq_ok_iff.1 h
  dsimp only at h
  split at h
  · cases h
  obtain ⟨-, -, h⟩ := Reading.bind_eq_ok_iff.1 h
  split at h
  · obtain ⟨sizes, hsizes, h⟩ := Reading.bind_eq_ok_iff.1 h
    cases h
    exact pos_of_checkSizes hsizes
  · obtain ⟨-, -, h⟩ := Reading.bind_eq_ok_iff.1 h
    obtain ⟨sizes, hsizes, h⟩ := Reading.bind_eq_ok_iff.1 h
    cases h
    exact pos_of_checkSizes hsizes

variable [Scalar α]

/-- What a quadratic function was built from. -/
theorem exists_of_ofQuadratic {a b : Reading α (Tensor α)} {level : Reading α α} {name : String}
    (h : ofQuadratic a b level name = .ok f) : ∃ t u form, a = .ok t ∧ b = .ok u ∧ level = .ok form.level ∧
      Matrix.ofTensor? t = some form.matrix ∧ u.data = form.slope ∧ form.matrix.isSymmetric 1e-5 1e-8 = true ∧
      0 < form.matrix.width ∧ f = .quadratic name form := by
  unfold ofQuadratic at h
  obtain ⟨t, ht, h⟩ := Reading.bind_eq_ok_iff.1 h
  split at h
  · cases h
  rename_i matrix hmatrix
  split at h
  · split at h
    · cases h
    rename_i hsymmetric
    obtain ⟨u, hu, h⟩ := Reading.bind_eq_ok_iff.1 h
    split at h
    · obtain ⟨sizes, hsizes, h⟩ := Reading.bind_eq_ok_iff.1 h
      obtain ⟨c, hc, h⟩ := Reading.bind_eq_ok_iff.1 h
      cases h
      obtain ⟨⟨hpos, hwidth⟩, -⟩ := sizes_of_checkSizes hsizes
      have hsame : matrix.width = sizes.1 := Int.ofNat.inj (Except.ok.inj hwidth)
      rw [← hsame] at hpos
      rw [Bool.not_eq_true', Bool.not_eq_false] at hsymmetric
      exact ⟨t, u, _, ht, hu, hc, hmatrix, rfl, hsymmetric, hpos, rfl⟩
    · cases h
  · cases h

theorem sizes_pos_of_ofQuadratic {a b : Reading α (Tensor α)} {level : Reading α α} {name : String}
    (h : ofQuadratic a b level name = .ok f) : 0 < f.inputSize ∧ 0 < f.outputSize := by
  obtain ⟨t, u, form, -, -, -, -, -, -, hwidth, rfl⟩ := exists_of_ofQuadratic h
  exact ⟨hwidth, Nat.one_pos⟩

theorem sizes_of_ofDifferences {base : Function α} {step : Reading α α}
    (h : ofDifferences (.ok base) step = .ok f) :
    f.inputSize = base.inputSize ∧ f.outputSize = base.outputSize := by
  unfold ofDifferences at h
  obtain ⟨step, -, h⟩ := Reading.bind_eq_ok_iff.1 h
  split at h
  · cases h
  · cases h
    exact ⟨rfl, rfl⟩

/-- A function that a constructor answered with. -/
inductive Made : Function α → Prop
  | affine {a b : Reading α (Tensor α)} {name : String} {f : Function α} (h : ofMatrix a b name = .ok f) : Made f
  | quadratic {a b : Reading α (Tensor α)} {level : Reading α α} {name : String} {f : Function α}
    (h : ofQuadratic a b level name = .ok f) : Made f
  | constant {inputs : Written α Int} {value : Reading α (Tensor α)} {name : String} {f : Function α}
    (h : ofConstant inputs value name = .ok f) : Made f
  | shift {offset : Reading α (Tensor α)} {name : String} {f : Function α}
    (h : ofShift offset name = .ok f) : Made f
  | symbolic {inputs outputs : Written α Int} {formula : Nested (Expr α)} {name : String} {f : Function α}
    (h : ofExpressions inputs outputs formula name = .ok f) : Made f
  | custom {hooks : Hooks α} {f : Function α} (h : ofHooks hooks = .ok f) : Made f
  | finiteDifference {base f : Function α} {step : Reading α α} (hbase : Made base)
    (h : ofDifferences (.ok base) step = .ok f) : Made f

/-- However a function was made, it has arguments and outputs. -/
theorem Made.sizes_pos (h : f.Made) : 0 < f.inputSize ∧ 0 < f.outputSize := by
  induction h with
  | affine h => exact sizes_pos_of_ofMatrix h
  | quadratic h => exact sizes_pos_of_ofQuadratic h
  | constant h => exact sizes_pos_of_ofConstant h
  | shift h => exact sizes_pos_of_ofShift h
  | symbolic h => exact sizes_pos_of_ofExpressions h
  | custom h => exact sizes_pos_of_ofHooks h
  | finiteDifference _ h ih => rwa [(sizes_of_ofDifferences h).1, (sizes_of_ofDifferences h).2]

theorem Made.inputSize_pos (h : f.Made) : 0 < f.inputSize :=
  h.sizes_pos.1

theorem Made.outputSize_pos (h : f.Made) : 0 < f.outputSize :=
  h.sizes_pos.2

/-! ## Stacked gradients -/

/-- The function leaves its jacobian to the library, or is one of the library's own that have a matrix at hand.
Left out are functions of expressions, and those of users who wrote a jacobian themselves. -/
def Stacks : Function α → Prop
  | symbolic .. => False
  | custom own => own.jacobian = none
  | affine .. | quadratic .. | constant .. | shift .. | finiteDifference .. => True

/-- What is stacked for an output. -/
def rowAt (f : Function α) (x : List α) (index : Nat) : Except (Error α) (List α) := do
  return (← (← f.rawGradient x index).numbers).data

/-- What is stacked for an output are the numbers that its part returned, in whatever lists they came. -/
theorem rowAt_eq_ok_iff {x row : List α} {i : Nat} :
    f.rowAt x i = .ok row ↔ ∃ t, Converts (f.rawGradient x i) t ∧ row = t.data := by
  unfold rowAt
  rw [Reading.bind_eq_ok_iff]
  constructor
  · rintro ⟨raw, hraw, h⟩
    obtain ⟨t, ht, h⟩ := Reading.bind_eq_ok_iff.1 h
    exact ⟨t, ⟨raw, hraw, Nested.numbers_eq_ok_iff.1 ht⟩, (Except.ok.inj h).symm⟩
  · rintro ⟨t, ⟨raw, hraw, ht⟩, rfl⟩
    refine ⟨raw, hraw, ?_⟩
    rw [Nested.numbers_eq_ok_iff.2 ht]
    rfl

/-- The gradients are stacked if the part returned something for every output. -/
theorem stackedGradients_eq_ok_iff {x : List α} {raw : Nested α} : f.stackedGradients x = .ok raw ↔
    ∃ rows, List.Forall₂ (fun i row ↦ f.rowAt x i = .ok row) (List.range f.outputSize) rows ∧
      raw = .ofRows rows := by
  have hstacked : f.stackedGradients x = (List.range f.outputSize).mapM (f.rowAt x) >>= (.ok <| .ofRows ·) := rfl
  rw [hstacked, Reading.bind_eq_ok_iff]
  refine exists_congr fun rows ↦ and_congr Reading.mapM_eq_ok_iff ?_
  rw [Except.ok.injEq, eq_comm]

/-- Gradients that are known and flat are stacked as they are. -/
theorem stackedGradients_of_rows {x : List α} {rows : List (List α)} (hlength : rows.length = f.outputSize)
    (h : ∀ i row, rows[i]? = some row → f.rawGradient x i = .ok (.ofList row)) :
    f.stackedGradients x = .ok (.ofRows rows) := by
  refine stackedGradients_eq_ok_iff.2 ⟨rows, List.forall₂_iff_get.2 ⟨?_, fun i hi hrow ↦ ?_⟩, rfl⟩
  · rw [List.length_range, hlength]
  · rw [List.get_eq_getElem, List.get_eq_getElem, List.getElem_range]
    have hraw := h i rows[i] (List.getElem?_eq_getElem hrow)
    exact rowAt_eq_ok_iff.2 ⟨.vector rows[i], ⟨_, hraw, Nested.tensor?_ofList rows[i]⟩, rfl⟩

/-- A matrix at hand is what stacking the gradients would give. -/
theorem rawJacobian_eq_stackedGradients (h : f.Stacks) (x : List α) : f.rawJacobian x = f.stackedGradients x := by
  cases f with
  | affine name map =>
    refine (stackedGradients_of_rows rfl fun i row hrow ↦ ?_).symm
    have hat : map.matrix.row i = row := congrArg (fun entry ↦ entry.getD []) hrow
    rw [← hat]
    rfl
  | quadratic => rfl
  | constant name inputs value =>
    refine (stackedGradients_of_rows ?_ fun i row hrow ↦ ?_).symm
    · exact List.length_replicate
    · rw [List.eq_of_mem_replicate (List.mem_of_getElem? hrow)]
      rfl
  | shift name offset =>
    refine (stackedGradients_of_rows ?_ fun i row hrow ↦ ?_).symm
    · exact (List.length_map (Vec.unit offset.length)).trans List.length_range
    · obtain ⟨j, hj, rfl⟩ := Option.map_eq_some_iff.1 (List.getElem?_map.symm.trans hrow)
      obtain ⟨-, rfl⟩ := List.getElem?_eq_some_iff.1 hj
      rw [List.getElem_range]
      rfl
  | symbolic => exact h.elim
  | custom own =>
    have hnone : own.jacobian = none := h
    rw [rawJacobian.eq_def]
    dsimp only
    rw [hnone]
  | finiteDifference => rfl

/-- Stacked gradients have a shape exactly if they are equally long. -/
theorem converts_stackedGradients_iff (houtputs : 0 < f.outputSize) {x : List α} {t : Tensor α} :
    Converts (f.stackedGradients x) t ↔ ∃ rows n, (∀ row ∈ rows, row.length = n) ∧
      List.Forall₂ (fun i row ↦ f.rowAt x i = .ok row) (List.range f.outputSize) rows ∧
      t.shape = [f.outputSize, n] ∧ t.data = rows.flatten := by
  have hsome {rows : List (List α)}
      (hrows : List.Forall₂ (fun i row ↦ f.rowAt x i = .ok row) (List.range f.outputSize) rows) :
      rows ≠ [] ∧ rows.length = f.outputSize := by
    have hlength : rows.length = f.outputSize := hrows.length_eq.symm.trans List.length_range
    refine ⟨?_, hlength⟩
    rw [← List.length_pos_iff, hlength]
    exact houtputs
  constructor
  · rintro ⟨raw, hraw, ht⟩
    obtain ⟨rows, hrows, rfl⟩ := stackedGradients_eq_ok_iff.1 hraw
    obtain ⟨hne, hlength⟩ := hsome hrows
    obtain ⟨n, hwidth, hshape, hdata⟩ := (Nested.tensor?_ofRows hne).1 ht
    rw [hlength] at hshape
    exact ⟨rows, n, hwidth, hrows, hshape, hdata⟩
  · rintro ⟨rows, n, hwidth, hrows, hshape, hdata⟩
    obtain ⟨hne, hlength⟩ := hsome hrows
    rw [← hlength] at hshape
    exact ⟨_, stackedGradients_eq_ok_iff.2 ⟨rows, hrows, rfl⟩,
      (Nested.tensor?_ofRows hne).2 ⟨n, hwidth, hshape, hdata⟩⟩

/-! ## Checked rows -/

/-- Debug mode adds a check of the rows to what happens without it. -/
theorem jacobian_of_debug (f : Function α) (point : Tensor α) : f.jacobian true point =
    f.jacobian false point >>= fun a ↦ f.checkRows point a.rows >>= fun _ ↦ .ok a := by
  unfold jacobian
  simp only [bind_assoc]
  refine bind_congr fun _ ↦ bind_congr fun x ↦ bind_congr fun raw ↦ bind_congr fun t ↦ ?_
  refine bind_congr fun checked ↦ ?_
  cases Matrix.ofTensor? checked with
  | none => rfl
  | some a => rfl

/-- Rows that are gradients pass the check if they are close to themselves. -/
theorem checkRows_eq_ok {point : Tensor α} {rows : List (List α)} (hrows : ∀ (i : Nat) row, rows[i]? = some row →
    f.gradient point i = .ok row ∧ Vec.isClose? 1e-5 1e-8 row row = some true) :
    f.checkRows point rows = .ok () := by
  refine Reading.forM_eq_ok_iff.2 fun ⟨row, i⟩ hp ↦ ?_
  obtain ⟨hgradient, hclose⟩ := hrows i row (List.mem_zipIdx_iff_getElem?.1 hp)
  dsimp only
  rw [hgradient]
  dsimp only [bind, Except.bind]
  rw [hclose]
  rfl

end Function

namespace Vec

theorem isClose?_self {x : List Float} (hx : ∀ v ∈ x, v.isNaN = false) (rtol atol : Float) :
    isClose? rtol atol x x = some true := by
  have hclose : ∀ p ∈ x.zip x, Scalar.isClose rtol atol p.1 p.2 = true := by
    rintro ⟨v, w⟩ hp
    obtain ⟨i, hi⟩ := List.mem_iff_getElem?.1 hp
    obtain ⟨hv, hw⟩ := List.getElem?_zip_eq_some.1 hi
    obtain rfl : v = w := Option.some.inj (hv.symm.trans hw)
    have hdefined := hx v (List.mem_of_getElem? hv)
    have hself : (v == v) = true := (Binary64.beq_iff_integer hdefined hdefined).2 rfl
    unfold Scalar.isClose
    rw [hself, Bool.true_or]
  unfold isClose?
  rw [if_pos rfl, List.all_eq_true.2 hclose]

end Vec

namespace Session

variable {f : Function Float} {s : Session} {x : Reading Float (Tensor Float)}

/-! ## The jacobian is the matrix of the gradients -/

/-- A gradient is what would be stacked for its output, if it is of the right length. -/
theorem answer_gradient_eq_ok_iff (hderivable : f.tier.isSubtier .derivable = true) {i : Nat}
    {slope : List Float} :
    answer (gradient f x i) s = .ok slope ↔ ∃ point, x = .ok point ∧ IsPoint f point ∧ i < f.outputSize ∧
      f.rowAt point.data i = .ok slope ∧ slope.length = f.inputSize := by
  have hcontract : GradientContract f x i _ := gradientContract hderivable x i s
  rw [hcontract.eq_ok_iff fun y z t hy hz ↦ hy.2.trans hz.2.symm]
  constructor
  · rintro ⟨point, t, hx, ⟨hpoint, hi⟩, hconverts, -, hlength, hslope⟩
    exact ⟨point, hx, hpoint, Int.ofNat_lt.1 hi.2, Function.rowAt_eq_ok_iff.2 ⟨t, hconverts, hslope⟩, hlength⟩
  · rintro ⟨point, hx, hpoint, hi, hrow, hlength⟩
    obtain ⟨t, hconverts, rfl⟩ := Function.rowAt_eq_ok_iff.1 hrow
    exact ⟨point, t, hx, ⟨hpoint, Int.natCast_nonneg i, Int.ofNat_lt.2 hi⟩, hconverts, hlength, hlength, rfl⟩

section Stacked

variable (hderivable : f.tier.isSubtier .derivable = true) (hstacks : f.Stacks) (houtputs : 0 < f.outputSize)
  (hdebug : s.debug = false)

include hderivable hstacks houtputs hdebug

/-- A jacobian is what is stacked for the outputs, if all of it is of the right length. -/
theorem answer_jacobian_eq_ok_iff {a : Matrix Float} :
    answer (jacobian f x) s = .ok a ↔ ∃ point, x = .ok point ∧ IsPoint f point ∧ a.width = f.inputSize ∧
      List.Forall₂ (fun i row ↦ f.rowAt point.data i = .ok row) (List.range f.outputSize) a.rows := by
  have hcontract : JacobianContract f x _ := jacobianContract hderivable x hdebug
  have hmatrix : ∀ (b c : Matrix Float) (t : Tensor Float), (b.height = f.outputSize ∧ b.width = f.inputSize ∧
      b.entries = t.data) → (c.height = f.outputSize ∧ c.width = f.inputSize ∧ c.entries = t.data) → b = c := by
    rintro b c t ⟨hb, hb', hbt⟩ ⟨hc, hc', hct⟩
    exact Matrix.ext_entries (hb.trans hc.symm) (hb'.trans hc'.symm) (hbt.trans hct.symm)
  rw [hcontract.eq_ok_iff hmatrix]
  constructor
  · rintro ⟨point, t, hx, hpoint, hconverts, haccepted, hheight, hwidth, hentries⟩
    rw [Function.rawJacobian_eq_stackedGradients hstacks,
      Function.converts_stackedGradients_iff houtputs] at hconverts
    obtain ⟨rows, n, hlength, hrows, hshape, hdata⟩ := hconverts
    have hn : n = f.inputSize := by
      rcases haccepted with haccepted | ⟨haccepted, -⟩
      · rw [hshape] at haccepted
        exact List.head_eq_of_cons_eq (List.tail_eq_of_cons_eq haccepted)
      · rw [hshape] at haccepted
        cases List.tail_eq_of_cons_eq haccepted
    have hcount : f.outputSize = rows.length := List.length_range.symm.trans hrows.length_eq
    have hsame : a.rows = rows := by
      rw [a.rows_eq_pieces, hheight, hwidth, hentries, hdata, ← hn, hcount, Tensor.pieces_flatten hlength]
    rw [hsame]
    exact ⟨point, hx, hpoint, hwidth, hrows⟩
  · rintro ⟨point, hx, hpoint, hwidth, hrows⟩
    have hheight : a.height = f.outputSize := hrows.length_eq.symm.trans List.length_range
    have hshape : a.tensor.shape = [f.outputSize, f.inputSize] := by
      change [a.height, a.width] = _
      rw [hheight, hwidth]
    have hconverts : Converts (f.rawJacobian point.data) a.tensor := by
      rw [Function.rawJacobian_eq_stackedGradients hstacks, Function.converts_stackedGradients_iff houtputs]
      refine ⟨a.rows, f.inputSize, ?_, hrows, hshape, rfl⟩
      rw [← hwidth]
      exact a.length_row
    exact ⟨point, a.tensor, hx, hpoint, hconverts, .inl hshape, hheight, hwidth, rfl⟩

/-- The jacobian is the matrix of the gradients. -/
theorem answer_jacobian_eq_gradients_iff {a : Matrix Float} :
    answer (jacobian f x) s = .ok a ↔ a.width = f.inputSize ∧
      List.Forall₂ (fun (i : Nat) row ↦ answer (gradient f x i) s = .ok row) (List.range f.outputSize) a.rows := by
  rw [answer_jacobian_eq_ok_iff hderivable hstacks houtputs hdebug]
  constructor
  · rintro ⟨point, hx, hpoint, hwidth, hrows⟩
    obtain ⟨hlength, hat⟩ := List.forall₂_iff_get.1 hrows
    refine ⟨hwidth, List.forall₂_iff_get.2 ⟨hlength, fun i hi hrow ↦ ?_⟩⟩
    refine (answer_gradient_eq_ok_iff hderivable).2 ⟨point, hx, hpoint, ?_, hat i hi hrow, ?_⟩
    · rw [List.get_eq_getElem, List.getElem_range]
      exact Nat.lt_of_lt_of_eq hi List.length_range
    · rw [← hwidth]
      exact a.length_row _ (List.get_mem a.rows ⟨i, hrow⟩)
  · rintro ⟨hwidth, hrows⟩
    obtain ⟨hlength, hat⟩ := List.forall₂_iff_get.1 hrows
    have hfits {i : Nat} (hi : i < (List.range f.outputSize).length) (hrow : i < a.rows.length) :=
      (answer_gradient_eq_ok_iff hderivable).1 (hat i hi hrow)
    -- There is a first output, and its gradient was taken at a point.
    have hfirst : 0 < (List.range f.outputSize).length := by rwa [List.length_range]
    obtain ⟨point, hx, hpoint, -⟩ := hfits hfirst (hlength ▸ hfirst)
    refine ⟨point, hx, hpoint, hwidth, List.forall₂_iff_get.2 ⟨hlength, fun i hi hrow ↦ ?_⟩⟩
    obtain ⟨point', hx', -, -, hat', -⟩ := hfits hi hrow
    obtain rfl : point = point' := Except.ok.inj (hx.symm.trans hx')
    exact hat'

/-- Each row of a jacobian is answered as the gradient of its output. -/
theorem row_of_answer_jacobian {a : Matrix Float} (h : answer (jacobian f x) s = .ok a) {i : Nat}
    {row : List Float} (hrow : a.rows[i]? = some row) : answer (gradient f x i) s = .ok row := by
  obtain ⟨hlength, hat⟩ := List.forall₂_iff_get.1
    ((answer_jacobian_eq_gradients_iff hderivable hstacks houtputs hdebug).1 h).2
  obtain ⟨hi, rfl⟩ := List.getElem?_eq_some_iff.1 hrow
  have hgradient := hat i (hlength ▸ hi) hi
  rw [List.get_eq_getElem, List.getElem_range] at hgradient
  exact hgradient

/-- Functions whose gradients are all answered have a jacobian. -/
theorem exists_answer_jacobian
    (h : ∀ i : Nat, i < f.outputSize → ∃ slope, answer (gradient f x i) s = .ok slope) :
    ∃ a, answer (jacobian f x) s = .ok a := by
  have hlength {i : Nat} {slope : List Float} (hslope : answer (gradient f x i) s = .ok slope) :
      slope.length = f.inputSize := by
    obtain ⟨-, -, -, -, -, hlength⟩ := (answer_gradient_eq_ok_iff hderivable).1 hslope
    exact hlength
  have hall : ∀ i ∈ List.range f.outputSize, ∃ slope, answer (gradient f x (i : Int)) s = .ok slope ∧
      answer (gradient f x (i : Int)) s = .ok slope := by
    intro i hi
    obtain ⟨slope, hslope⟩ := h i (List.mem_range.1 hi)
    exact ⟨slope, hslope, hslope⟩
  obtain ⟨rows, hread, hrows⟩ := Reading.exists_mapM hall
  have hwidth : ∀ row ∈ rows, row.length = f.inputSize := by
    intro row hrow
    obtain ⟨i, -, hslope⟩ := (Reading.mem_iff_of_mapM hread).1 hrow
    exact hlength hslope
  exact ⟨⟨rows, f.inputSize, hwidth⟩,
    (answer_jacobian_eq_gradients_iff hderivable hstacks houtputs hdebug).2 ⟨rfl, hrows⟩⟩

/-- Debug mode finds nothing if all entries of the gradients are defined. -/
theorem answer_jacobian_of_debug
    (hdefined : ∀ (i : Nat) slope, answer (gradient f x i) s = .ok slope → ∀ v ∈ slope, v.isNaN = false) :
    answer (jacobian f x) { s with debug := true } = answer (jacobian f x) s := by
  cases hx : x with
  | error e =>
    rw [answer_jacobian, answer_jacobian, pointFor_of_isSubtier hderivable]
    rfl
  | ok point =>
    rw [← hx]
    have hon : answer (jacobian f x) { s with debug := true } = f.jacobian true point := by
      rw [answer_jacobian, pointFor_of_isSubtier hderivable, hx]
      rfl
    have hoff : answer (jacobian f x) s = f.jacobian false point := by
      rw [answer_jacobian, pointFor_of_isSubtier hderivable, hx, hdebug]
      rfl
    rw [hon, Function.jacobian_of_debug, ← hoff]
    cases hanswer : answer (jacobian f x) s with
    | error e => rfl
    | ok a =>
      have hchecked : f.checkRows point a.rows = .ok () := by
        refine Function.checkRows_eq_ok fun i row hrow ↦ ?_
        have hgradient := row_of_answer_jacobian hderivable hstacks houtputs hdebug hanswer hrow
        refine ⟨?_, Vec.isClose?_self (hdefined i row hgradient) _ _⟩
        rw [answer_gradient, pointFor_of_isSubtier hderivable, hx] at hgradient
        exact hgradient
      dsimp only [bind, Except.bind]
      rw [hchecked]

end Stacked

/-- How a jacobian and the gradients go together. -/
structure GradientRows (f : Function Float) (x : Reading Float (Tensor Float)) (s : Session) : Prop where
  /-- There is a jacobian exactly if there is a gradient of every output. -/
  answers_iff : (∃ a, answer (jacobian f x) s = .ok a) ↔
    ∀ i : Nat, i < f.outputSize → ∃ slope, answer (gradient f x i) s = .ok slope
  /-- The jacobian has one row for each output, which is the gradient. -/
  rows : ∀ a, answer (jacobian f x) s = .ok a → a.height = f.outputSize ∧ a.width = f.inputSize ∧
    ∀ (i : Nat) row, a.rows[i]? = some row → answer (gradient f x i) s = .ok row
  /-- If all entries of the gradients are defined, debug mode changes nothing. -/
  debug : (∀ (i : Nat) slope, answer (gradient f x i) s = .ok slope → ∀ v ∈ slope, v.isNaN = false) →
    answer (jacobian f x) { s with debug := true } = answer (jacobian f x) s

/-- Jacobian and gradients of a function go together when derivatives are not checked, whatever its parts return
and whatever it is given. -/
theorem jacobian_of_gradients (hmade : f.Made) (hderivable : f.tier.isSubtier .derivable = true)
    (hstacks : f.Stacks) (hdebug : s.debug = false) (x : Reading Float (Tensor Float)) : GradientRows f x s := by
  have houtputs := hmade.outputSize_pos
  have hrows {a : Matrix Float} (ha : answer (jacobian f x) s = .ok a) :=
    (answer_jacobian_eq_gradients_iff hderivable hstacks houtputs hdebug).1 ha
  have hheight {a : Matrix Float} (ha : answer (jacobian f x) s = .ok a) : a.height = f.outputSize :=
    (hrows ha).2.length_eq.symm.trans List.length_range
  refine ⟨⟨?_, ?_⟩, fun a ha ↦ ⟨hheight ha, (hrows ha).1, fun i row hrow ↦ ?_⟩, fun hdefined ↦ ?_⟩
  · rintro ⟨a, ha⟩ i hi
    have hrow : i < a.rows.length := Nat.lt_of_lt_of_eq hi (hheight ha).symm
    exact ⟨_, row_of_answer_jacobian hderivable hstacks houtputs hdebug ha (List.getElem?_eq_getElem hrow)⟩
  · exact exists_answer_jacobian hderivable hstacks houtputs hdebug
  · exact row_of_answer_jacobian hderivable hstacks houtputs hdebug ha hrow
  · exact answer_jacobian_of_debug hderivable hstacks houtputs hdebug hdefined

/-- A function of a user with two outputs, whose gradients are a column and a row in one more list. -/
def uneven : Custom Float where
  className := "Uneven"
  tier := .derivable
  name := ""
  inputs := 2
  outputs := 2
  compute _ := .ok (.ofList [0, 0])
  gradient _ i := .ok (if i = 0 then .ofRows [[1], [2]] else .ofRows [[3, 4]])
  jacobian := none
  hessian _ _ := .error (.unfit .missing)

/-- The library stacks them, and debug mode agrees. -/
theorem jacobian_of_gradients_uneven :
    let f := Function.custom uneven
    let x : Reading Float (Tensor Float) := .ok (.vector [0, 0])
    let hooks : Hooks Float := ⟨"Uneven", .derivable, "", .ofNat 2, .ofNat 2, some uneven.compute,
      some uneven.gradient, none, none⟩
    Function.ofHooks hooks = .ok f ∧ ∃ a, answer (jacobian f x) {} = .ok a ∧ a.rows = [[1, 2], [3, 4]] ∧
      answer (jacobian f x) { debug := true } = .ok a := by
  intro f x hooks
  have hooked : Function.ofHooks hooks = .ok f := rfl
  have hrows := jacobian_of_gradients (s := {}) (.custom hooked) rfl rfl rfl x
  have hfirst : answer (gradient f x (0 : Nat)) {} = .ok [1, 2] := rfl
  have hsecond : answer (gradient f x (1 : Nat)) {} = .ok [3, 4] := rfl
  have hcases {i : Nat} (hi : i < 2) : i = 0 ∨ i = 1 := by omega
  have hslopes : ∀ i : Nat, i < f.outputSize → ∃ slope, answer (gradient f x i) {} = .ok slope := by
    intro i hi
    rcases hcases hi with rfl | rfl
    · exact ⟨_, hfirst⟩
    · exact ⟨_, hsecond⟩
  have hdefined : ∀ (i : Nat) slope, answer (gradient f x i) {} = .ok slope → ∀ v ∈ slope, v.isNaN = false := by
    intro i slope hslope
    obtain ⟨-, -, -, hi, -⟩ := (answer_gradient_eq_ok_iff rfl).1 hslope
    rcases hcases hi with rfl | rfl
    · obtain rfl := Except.ok.inj (hfirst.symm.trans hslope)
      decide
    · obtain rfl := Except.ok.inj (hsecond.symm.trans hslope)
      decide
  obtain ⟨a, ha⟩ := hrows.answers_iff.2 hslopes
  obtain ⟨hheight, -, hat⟩ := hrows.rows a ha
  obtain ⟨first, second, htwo⟩ := List.length_eq_two.1 hheight
  rw [htwo] at hat
  obtain rfl := Except.ok.inj (hfirst.symm.trans (hat 0 first rfl))
  obtain rfl := Except.ok.inj (hsecond.symm.trans (hat 1 second rfl))
  exact ⟨hooked, a, ha, htwo, (hrows.debug hdefined).trans ha⟩

end Session

end Extremum
