import ZeroShot.Proofs.Number.Arithmetic
import ZeroShot.Proofs.Number.Binary32
import ZeroShot.Proofs.Score.Matrix

/-! Scores of logits that are no NaN lie between zero and one.

Only differences up to zero are exponentiated, because the greatest value is subtracted. When no
rule for infinities applies, that value is finite and among the values, so one of the weights is
one, and the sum that the weights are divided by is at least one and at least each of them. -/

namespace ZeroShot

open Arithmetic

/-- Laws of arithmetic that keep softmax between zero and one. A NaN is not even at most itself, so
`x ≤ x` says that `x` is a number. -/
class UnitArithmetic (α : Type) [Arithmetic α] [LE α] : Prop where
  le_trans {x y z : α} : x ≤ y → y ≤ z → x ≤ z
  le_self_of_le {x y : α} : x ≤ y → x ≤ x ∧ y ≤ y
  ofNat_zero_le_one : (ofNat 0 : α) ≤ ofNat 1
  one_le_ofNat {n : Nat} : 0 < n → (ofNat 1 : α) ≤ ofNat n
  isNegInf_of_le {x y : α} : x ≤ y → isNegInf y = true → isNegInf x = true
  max_greatest {x y : α} : x ≤ x → y ≤ y →
    x ≤ Arithmetic.max x y ∧ y ≤ Arithmetic.max x y ∧
      (Arithmetic.max x y = x ∨ Arithmetic.max x y = y)
  le_add {x y : α} : ofNat 0 ≤ x → ofNat 0 ≤ y → x ≤ add x y ∧ y ≤ add x y
  sub_le_zero {x y : α} : x ≤ y → isPosInf y = false → isNegInf y = false → sub x y ≤ ofNat 0
  sub_self {x : α} : x ≤ x → isPosInf x = false → isNegInf x = false → sub x x = ofNat 0
  exp_ofNat_zero : exp (ofNat 0 : α) = ofNat 1
  exp_between {x : α} : x ≤ ofNat 0 → ofNat 0 ≤ exp x ∧ exp x ≤ ofNat 1
  div_between {x y : α} : ofNat 0 ≤ x → x ≤ ofNat 1 → x ≤ y → ofNat 1 ≤ y →
    ofNat 0 ≤ div x y ∧ div x y ≤ ofNat 1

open UnitArithmetic

variable {α : Type} [Arithmetic α] [LE α] [UnitArithmetic α]

def InUnitInterval (x : α) : Prop := ofNat 0 ≤ x ∧ x ≤ ofNat 1

theorem peak_greatest {first : α} {rest : List α} (h : ∀ x ∈ first :: rest, x ≤ x) :
    peak first rest ∈ first :: rest ∧ ∀ x ∈ first :: rest, x ≤ peak first rest := by
  unfold peak
  induction rest generalizing first with
  | nil => simpa using h
  | cons second rest ih =>
    obtain ⟨hfirst, hrest⟩ := List.forall_mem_cons.1 h
    obtain ⟨hsecond, hrest⟩ := List.forall_mem_cons.1 hrest
    obtain ⟨hle, hle', hone⟩ := max_greatest hfirst hsecond
    have hmax : Arithmetic.max first second ≤ Arithmetic.max first second := by
      rcases hone with h | h <;> rwa [h]
    obtain ⟨hmem, hbound⟩ := ih (List.forall_mem_cons.2 ⟨hmax, hrest⟩)
    obtain ⟨htop, hrest⟩ := List.forall_mem_cons.1 hbound
    rw [List.foldl_cons]
    constructor
    · rcases List.mem_cons.1 hmem with hmem | hmem
      · rw [hmem]
        rcases hone with h | h <;> simp [h]
      · exact List.mem_cons_of_mem _ (List.mem_cons_of_mem _ hmem)
    · exact List.forall_mem_cons.2
        ⟨le_trans hle htop, List.forall_mem_cons.2 ⟨le_trans hle' htop, hrest⟩⟩

theorem isNegInf_peak {first : α} {rest : List α} (h : ∀ x ∈ first :: rest, x ≤ x)
    (hall : ¬ (first :: rest).all isNegInf = true) : isNegInf (peak first rest) = false := by
  rw [Bool.eq_false_iff]
  intro htop
  exact hall (List.all_eq_true.2 fun x hx => isNegInf_of_le ((peak_greatest h).2 x hx) htop)

theorem le_foldl_add {start : α} {values : List α} (hstart : ofNat 0 ≤ start)
    (h : ∀ x ∈ values, ofNat 0 ≤ x) :
    start ≤ values.foldl add start ∧ ∀ x ∈ values, x ≤ values.foldl add start := by
  induction values generalizing start with
  | nil => simpa using (le_self_of_le hstart).2
  | cons first rest ih =>
    obtain ⟨hfirst, hrest⟩ := List.forall_mem_cons.1 h
    obtain ⟨hle, hle'⟩ := le_add hstart hfirst
    obtain ⟨hsum, hbound⟩ := ih (le_trans hstart hle) hrest
    rw [List.foldl_cons]
    exact ⟨le_trans hle hsum, List.forall_mem_cons.2 ⟨le_trans hle' hsum, hbound⟩⟩

theorem le_total {values : List α} (h : ∀ x ∈ values, ofNat 0 ≤ x) :
    ∀ x ∈ values, x ≤ total values :=
  (le_foldl_add (le_self_of_le ofNat_zero_le_one).1 h).2

theorem inUnitInterval_share {count : Nat} (h : 0 < count) :
    InUnitInterval (share count : α) :=
  div_between ofNat_zero_le_one (le_self_of_le ofNat_zero_le_one).2 (one_le_ofNat h)
    (one_le_ofNat h)

theorem inUnitInterval_normalize {weights : List α} (h : ∀ w ∈ weights, InUnitInterval w)
    (hone : ofNat 1 ∈ weights) : ∀ s ∈ normalize weights, InUnitInterval s := by
  intro s hs
  obtain ⟨w, hw, rfl⟩ := List.mem_map.1 hs
  have hsum := le_total fun w hw => (h w hw).1
  exact div_between (h w hw).1 (h w hw).2 (hsum w hw) (hsum _ hone)

theorem inUnitInterval_weights {values : List α} {top : α} (hmem : top ∈ values)
    (hle : ∀ x ∈ values, x ≤ top) (hpos : isPosInf top = false) (hneg : isNegInf top = false) :
    ofNat 1 ∈ weights top values ∧ ∀ w ∈ weights top values, InUnitInterval w := by
  constructor
  · refine List.mem_map.2 ⟨top, hmem, ?_⟩
    rw [UnitArithmetic.sub_self (hle top hmem) hpos hneg, exp_ofNat_zero]
  · intro w hw
    obtain ⟨x, hx, rfl⟩ := List.mem_map.1 hw
    exact exp_between (sub_le_zero (hle x hx) hpos hneg)

theorem inUnitInterval_softmax {values : List α} (h : ∀ x ∈ values, x ≤ x) :
    ∀ s ∈ softmax values, InUnitInterval s := by
  intro s hs
  cases values with
  | nil => cases hs
  | cons first rest =>
    obtain ⟨hmem, hle⟩ := peak_greatest h
    rw [softmax] at hs
    split at hs
    · next hpos =>
      obtain ⟨x, hx, rfl⟩ := List.mem_map.1 hs
      split
      · exact inUnitInterval_share (List.countP_pos_iff.2 ⟨_, hmem, hpos⟩)
      · exact ⟨(le_self_of_le ofNat_zero_le_one).1, ofNat_zero_le_one⟩
    · next hpos =>
      split at hs
      · obtain ⟨x, hx, rfl⟩ := List.mem_map.1 hs
        exact inUnitInterval_share (Nat.succ_pos _)
      · next hneg =>
        obtain ⟨hone, hweights⟩ :=
          inUnitInterval_weights hmem hle (Bool.eq_false_iff.2 hpos) (isNegInf_peak h hneg)
        exact inUnitInterval_normalize hweights hone s hs

namespace LogitMatrix

theorem inUnitInterval_independentScore {width : Nat} {row : Fin width → α}
    (h : ∀ j, row j ≤ row j) (e c : Fin width) : InUnitInterval (independentScore row e c) := by
  unfold independentScore
  split
  · refine inUnitInterval_softmax ?_ _ (List.get_mem _ _)
    intro x hx
    obtain ⟨j, rfl⟩ := List.mem_ofFn.1 hx
    exact h j
  · refine inUnitInterval_softmax ?_ _ (List.get_mem _ _)
    intro x hx
    rcases List.mem_cons.1 hx with rfl | hx
    · exact h c
    · rw [List.mem_singleton.1 hx]
      exact h e

theorem inUnitInterval_scoresUnder {m : LogitMatrix α} (h : ∀ x ∈ m.entries, x ≤ x)
    (policy : Policy) (e c : Fin m.width) :
    ∀ s ∈ m.scoresUnder policy e c, InUnitInterval s := by
  intro s hs
  cases policy with
  | independent =>
    obtain ⟨i, -, rfl⟩ := List.mem_map.1 hs
    exact inUnitInterval_independentScore (fun j => h _ (m.entry_mem i j)) e c
  | exclusive =>
    refine inUnitInterval_softmax ?_ s hs
    intro x hx
    obtain ⟨i, -, rfl⟩ := List.mem_map.1 hx
    exact h _ (m.entry_mem i e)

end LogitMatrix

/-- What the exponential function is for numbers up to zero. -/
structure ExpBounds (exp : Binary64 → Binary64) : Prop where
  zero : exp .zero = .one
  between {x : Binary64} : x ≤ .zero → .zero ≤ exp x ∧ exp x ≤ .one

theorem unitArithmetic_binary64 {exp : Binary64 → Binary64} (hexp : ExpBounds exp) :
    @UnitArithmetic Binary64 (Binary64.arithmetic exp) _ :=
  letI := Binary64.arithmetic exp
  { le_trans := Binary64.le_trans
    le_self_of_le := fun h =>
      ⟨Binary64.isNaN_eq_false_iff_le_self.1 (Binary64.le_iff.1 h).1,
        Binary64.isNaN_eq_false_iff_le_self.1 (Binary64.le_iff.1 h).2.1⟩
    ofNat_zero_le_one := show Binary64.ofNat 0 ≤ Binary64.ofNat 1 by decide
    one_le_ofNat := fun h => Binary64.one_le_ofNat h
    isNegInf_of_le := fun hle hneg =>
      decide_eq_true (Binary64.eq_negInf_of_le (of_decide_eq_true hneg ▸ hle))
    max_greatest := Binary64.max_greatest
    le_add := Binary64.le_add
    sub_le_zero := fun hle hpos hneg =>
      Binary64.sub_le_zero hle (of_decide_eq_false hpos) (of_decide_eq_false hneg)
    sub_self := fun hle hpos hneg => Binary64.sub_self
      (Binary64.isNaN_eq_false_iff_le_self.2 hle) (of_decide_eq_false hpos)
      (of_decide_eq_false hneg)
    exp_ofNat_zero := hexp.zero
    exp_between := hexp.between
    div_between := fun {x _} hx hone hle hdiv =>
      have hfinite : x ≠ .posInf := by
        rintro rfl
        exact absurd hone (show ¬ Binary64.posInf ≤ Binary64.ofNat 1 by decide)
      Binary64.div_le_one hx hle hdiv hfinite }

namespace LogitMatrix

/-- The scores of a matrix if `exp` is the exponential function. -/
def scoreWith (exp : Binary64 → Binary64) (m : LogitMatrix Binary32) (indices : ClassIndices)
    (multiLabel : Bool) : Except Error (List Binary64) :=
  letI := Binary64.arithmetic exp
  (m.map Binary32.widen).score indices multiLabel

theorem scoreWith_exp (m : LogitMatrix Binary32) (indices : ClassIndices) (multiLabel : Bool) :
    m.scoreWith Binary64.exp indices multiLabel = (m.map Binary32.widen).score indices multiLabel :=
  rfl

theorem isNaN_entries_widen {m : LogitMatrix Binary32} (h : ∀ x ∈ m.entries, x.isNaN = false) :
    ∀ x ∈ (m.map Binary32.widen).entries, x ≤ x := by
  intro x hx
  obtain ⟨y, hy, rfl⟩ := List.mem_map.1 hx
  exact Binary64.isNaN_eq_false_iff_le_self.1 (Binary32.isNaN_widen (h y hy))

/-- Logits that are no NaN have scores between zero and one, infinite logits too. -/
theorem between_of_scoreWith {exp : Binary64 → Binary64} (hexp : ExpBounds exp)
    (m : LogitMatrix Binary32) (hnumbers : ∀ x ∈ m.entries, x.isNaN = false)
    (indices : ClassIndices) (multiLabel : Bool) (he : indices.entailment < m.width)
    (hc : indices.contradiction < m.width) :
    (∀ scores, m.scoreWith exp indices multiLabel = .ok scores →
      ∀ s ∈ scores, s.isNaN = false ∧ .zero ≤ s ∧ s ≤ .one) ∧
    (0 < m.height → ∃ scores, m.scoreWith exp indices multiLabel = .ok scores ∧
      scores.length = m.height) := by
  let _ := Binary64.arithmetic exp
  have _ := unitArithmetic_binary64 hexp
  have hscore (hheight : 0 < m.height) :=
    (m.map Binary32.widen).score_eq_ok multiLabel hheight he hc
  constructor
  · intro scores hscores s hs
    rcases Nat.eq_zero_or_pos m.height with hempty | hheight
    · have herror := (m.map Binary32.widen).score_of_empty indices multiLabel hempty
      cases herror.symm.trans hscores
    · cases (hscore hheight).symm.trans hscores
      have hbetween := inUnitInterval_scoresUnder (isNaN_entries_widen hnumbers) _ _ _ s hs
      exact ⟨(Binary64.le_iff.1 hbetween.1).2.1, hbetween⟩
  · intro hheight
    exact ⟨_, hscore hheight, length_scoresUnder _ _ _ _⟩

def steepExp (x : Binary64) : Binary64 := if x.magnitudeBits = 0 then .one else .zero

def farApart : LogitMatrix Binary32 where
  height := 3
  width := 3
  entries := [⟨0xff800000⟩, ⟨0⟩, ⟨0⟩, ⟨0⟩, ⟨0x7f800000⟩, ⟨0x447a0000⟩, ⟨0x447a0000⟩, ⟨0⟩,
    ⟨0xff800000⟩]
  length_entries := rfl

theorem between_of_scoreWith_far_apart :
    ExpBounds steepExp ∧ (∀ x ∈ farApart.entries, x.isNaN = false) ∧
      ∃ scores, farApart.scoreWith steepExp {} false = .ok scores ∧ scores.length = 3 ∧
        ∀ s ∈ scores, s.isNaN = false ∧ .zero ≤ s ∧ s ≤ .one := by
  have hexp : ExpBounds steepExp := by
    refine ⟨by decide, ?_⟩
    intro x _
    unfold steepExp
    split <;> decide
  have hnumbers : ∀ x ∈ farApart.entries, x.isNaN = false := by decide
  obtain ⟨hbetween, hsome⟩ :=
    between_of_scoreWith hexp farApart hnumbers {} false (by decide) (by decide)
  obtain ⟨scores, hscores, hlength⟩ := hsome (by decide)
  exact ⟨hexp, hnumbers, scores, hscores, hlength, hbetween scores hscores⟩

end LogitMatrix

end ZeroShot
