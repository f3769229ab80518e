import Extremum.Text.Case

/-!
# Lower case is final

A text in lower case stays as it is when it is put in lower case again. What a letter corresponds to is looked
up in runs, so it is enough that no run leads into another one, nor to one of the two letters that are treated
apart: the dotted capital i, whose lower case is a sequence, and the capital sigma.
-/

namespace Extremum.Text

/-! ## Runs -/

namespace Run

/-- Checks that no code point of a run corresponds to one of another: those that it corresponds to lie before
or behind the other run, or between its members. -/
def misses (r q : Run) : Bool :=
  Nat.blt ((r.last : Int) + r.offset).toNat q.first || (Nat.blt q.last ((r.first : Int) + r.offset).toNat ||
    (q.step == 2 && (r.step == 2 || r.first == r.last) && (((r.first : Int) + r.offset).toNat + q.first) % 2 == 1))

/-- All code points that those of a run correspond to are characters. -/
def Proper (r : Run) : Prop :=
  0 ≤ (r.first : Int) + r.offset ∧ (r.last : Int) + r.offset < 0xd800 ∨
    0xdfff < (r.first : Int) + r.offset ∧ (r.last : Int) + r.offset < 0x110000

instance (r : Run) : Decidable r.Proper :=
  inferInstanceAs (Decidable (_ ∨ _))

variable {r q : Run} {code image : Nat}

theorem image_eq_some_iff : r.apply? code = some image ↔
    (r.first ≤ code ∧ code ≤ r.last ∧ (code - r.first) % r.step = 0) ∧
      ((code : Int) + r.offset).toNat = image := by
  unfold Run.apply?
  split
  · rename_i h
    simp only [Bool.and_eq_true, decide_eq_true_eq, beq_iff_eq, and_assoc] at h
    rw [Option.some.injEq]
    exact ⟨fun himage ↦ ⟨h, himage⟩, fun himage ↦ himage.2⟩
  · rename_i h
    simp only [Bool.and_eq_true, decide_eq_true_eq, beq_iff_eq, and_assoc] at h
    exact ⟨fun hnone ↦ (by cases hnone), fun himage ↦ absurd himage.1 h⟩

theorem image_eq_none_of_misses (h : r.apply? code = some image) (hproper : r.Proper)
    (hmisses : r.misses q = true) : q.apply? image = none := by
  rw [Option.eq_none_iff_forall_ne_some]
  intro other hother
  obtain ⟨⟨hfirst, hlast, hstep⟩, himage⟩ := image_eq_some_iff.1 h
  obtain ⟨⟨hqfirst, hqlast, hqstep⟩, -⟩ := image_eq_some_iff.1 hother
  unfold Proper at hproper
  have hcode : (image : Int) = code + r.offset := by omega
  simp only [misses, Bool.or_eq_true, Bool.and_eq_true, Nat.blt_eq, beq_iff_eq] at hmisses
  rcases hmisses with hbefore | hbehind | ⟨⟨htwo, hgrid⟩, hodd⟩
  · omega
  · omega
  · -- Both the image and the members of the other run are every second code point, but not the same ones.
    rw [htwo] at hqstep
    rcases hgrid with hgrid | hsingle
    · rw [hgrid] at hstep
      omega
    · omega

theorem isValidChar_of_image (h : r.apply? code = some image) (hproper : r.Proper) : image.isValidChar := by
  obtain ⟨⟨hfirst, hlast, -⟩, himage⟩ := image_eq_some_iff.1 h
  unfold Proper at hproper
  unfold Nat.isValidChar
  omega

end Run

/-! ## Letters -/

/-- A character that is in lower case already. -/
structure Settled (c : Char) : Prop where
  notSigma : c ≠ 'Σ'
  itself : otherCase lowerRuns lowerSequences c = [c]

/-- The letters that are treated apart, as runs. -/
def special : List Run := [⟨0x130, 0x130, 1, 0⟩, ⟨0x3a3, 0x3a3, 1, 0⟩]

/-- No run leads into a run, or to a letter that is treated apart. -/
theorem misses_of_mem {r q : Run} (hr : r ∈ lowerRuns) (hq : q ∈ special ++ lowerRuns) : r.misses q = true := by
  have hall : (lowerRuns.all fun r ↦ (special ++ lowerRuns).all r.misses) = true := by decide +kernel
  exact List.all_eq_true.1 (List.all_eq_true.1 hall r hr) q hq

theorem proper_of_mem : ∀ r ∈ lowerRuns, r.Proper := by
  decide +kernel

theorem otherCase_of_ne {c : Char} (h : c.toNat ≠ 0x130) : otherCase lowerRuns lowerSequences c =
    [((lowerRuns.findSome? fun run ↦ run.apply? c.toNat).map Char.ofNat).getD c] := by
  have hne : (0x130 == c.toNat) = false := by
    rw [beq_eq_false_iff_ne]
    exact h.symm
  unfold otherCase lowerSequences
  rw [List.find?_cons, hne]
  rfl

/-- A character is in lower case if no run leads on from it and it is not treated apart. -/
theorem settled_of_outside {c : Char} (h : ∀ q ∈ special ++ lowerRuns, q.apply? c.toNat = none) : Settled c := by
  have hdotted : c.toNat ≠ 0x130 := by
    intro heq
    have hnone := h ⟨0x130, 0x130, 1, 0⟩ (by decide)
    rw [heq] at hnone
    exact absurd hnone (by decide)
  have hruns : (lowerRuns.findSome? fun run ↦ run.apply? c.toNat) = none := by
    rw [List.findSome?_eq_none_iff]
    exact fun q hq ↦ h q (List.mem_append_right _ hq)
  constructor
  · rintro rfl
    exact absurd (h ⟨0x3a3, 0x3a3, 1, 0⟩ (by decide)) (by decide)
  · rw [otherCase_of_ne hdotted, hruns]
    rfl

/-- What a letter of a run corresponds to is in lower case. -/
theorem settled_of_image {r : Run} (hr : r ∈ lowerRuns) {code image : Nat} (h : r.apply? code = some image) :
    Settled (Char.ofNat image) := by
  have hproper := proper_of_mem r hr
  have hnat : (Char.ofNat image).toNat = image := by
    rw [Char.ofNat, dif_pos (Run.isValidChar_of_image h hproper)]
    rfl
  apply settled_of_outside
  intro q hq
  rw [hnat]
  exact Run.image_eq_none_of_misses h hproper (misses_of_mem hr hq)

/-- The letters that those treated apart correspond to are in lower case. -/
theorem settled_of_special {d : Char} (hd : d ∈ ['i', Char.ofNat 0x307, 'ς', 'σ']) : Settled d := by
  have hall : (['i', Char.ofNat 0x307, 'ς', 'σ'].all fun d ↦
      (special ++ lowerRuns).all fun q ↦ Option.isNone <| q.apply? d.toNat) = true := by decide +kernel
  exact settled_of_outside fun q hq ↦
    Option.isNone_iff_eq_none.1 (List.all_eq_true.1 (List.all_eq_true.1 hall d hd) q hq)

/-- Lowering a letter leads to letters that stay as they are. -/
theorem settled_of_mem_otherCase {c d : Char} (hsigma : c ≠ 'Σ')
    (hd : d ∈ otherCase lowerRuns lowerSequences c) : Settled d := by
  by_cases hdotted : c.toNat = 0x130
  · have hc : c = 'İ' := Char.toNat_inj.1 hdotted
    have hletters : otherCase lowerRuns lowerSequences 'İ' = ['i', Char.ofNat 0x307] := rfl
    rw [hc, hletters] at hd
    exact settled_of_special (List.mem_append_left ['ς', 'σ'] hd)
  · have hother := otherCase_of_ne hdotted
    rw [hother, List.mem_singleton] at hd
    cases hfound : (lowerRuns.findSome? fun run ↦ run.apply? c.toNat) with
    | none =>
      rw [hfound] at hd hother
      rw [hd]
      exact ⟨hsigma, hother⟩
    | some image =>
      obtain ⟨r, hr, himage⟩ := List.exists_of_findSome?_eq_some hfound
      rw [hfound] at hd
      rw [hd]
      exact settled_of_image hr himage

/-! ## Texts -/

theorem settled_of_mem_lowerAfter {before cs : List Char} {d : Char} (hd : d ∈ lowerAfter before cs) :
    Settled d := by
  induction cs generalizing before with
  | nil => cases hd
  | cons c rest ih =>
    unfold lowerAfter at hd
    dsimp only at hd
    rcases List.mem_append.1 hd with hfirst | hrest
    · by_cases hsigma : c = 'Σ'
      · rw [if_pos (beq_iff_eq.2 hsigma), List.mem_singleton] at hfirst
        rw [hfirst]
        split
        · exact settled_of_special (by decide)
        · exact settled_of_special (by decide)
      · rw [if_neg (fun h ↦ hsigma (beq_iff_eq.1 h))] at hfirst
        exact settled_of_mem_otherCase hsigma hfirst
    · exact ih hrest

/-- Characters that stay as they are make a text that stays as it is. -/
theorem lowerAfter_of_settled {before cs : List Char} (h : ∀ c ∈ cs, Settled c) : lowerAfter before cs = cs := by
  induction cs generalizing before with
  | nil => rfl
  | cons c rest ih =>
    have hc := h c List.mem_cons_self
    unfold lowerAfter
    dsimp only
    rw [if_neg (fun heq ↦ hc.notSigma (beq_iff_eq.1 heq)), hc.itself,
      ih fun d hd ↦ h d (List.mem_cons_of_mem c hd)]
    rfl

/-- A text in lower case is its own lower case. -/
@[simp] theorem lower_lower (s : String) : lower (lower s) = lower s := by
  unfold lower
  rw [String.toList_ofList, lowerAfter_of_settled fun _ ↦ settled_of_mem_lowerAfter]

end Extremum.Text
