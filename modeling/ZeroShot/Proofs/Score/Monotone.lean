import ZeroShot.Proofs.Score.Bounds
import ZeroShot.Proofs.Score.Columns
import ZeroShot.Proofs.Score.Propagation

/-! Competing candidates have their scores in the order of their entailment logits.

Each rule of softmax gives a value a part that depends on the value and on what all values have in
common: the greatest value, the sum of the weights, the number of infinities. With those fixed,
every step from a value to its part keeps the order, and so does the choice between the mass of
`+∞` and nothing. -/

namespace ZeroShot

open Arithmetic

/-- Arithmetic whose operations keep the order of numbers where softmax uses them. -/
class MonotoneArithmetic (α : Type) [Arithmetic α] [LE α] : Prop extends UnitArithmetic α where
  isPosInf_of_le {x y : α} : x ≤ y → isPosInf x = true → isPosInf y = true
  sub_le_sub {x y z : α} : x ≤ y → z ≤ z → isPosInf z = false → isNegInf z = false →
    sub x z ≤ sub y z
  exp_le_exp {x y : α} : x ≤ y → y ≤ ofNat 0 → exp x ≤ exp y
  div_le_div {x y z : α} : ofNat 0 ≤ x → x ≤ y → y ≤ ofNat 1 → ofNat 1 ≤ z → div x z ≤ div y z

open UnitArithmetic MonotoneArithmetic

section

variable {α : Type} [Arithmetic α] [LE α] [MonotoneArithmetic α]

theorem mass_mono {count : Nat} (hcount : 0 < count) {x y : α} (h : x ≤ y) :
    (if isPosInf x then share count else ofNat 0 : α) ≤
      if isPosInf y then share count else ofNat 0 := by
  have hshare : InUnitInterval (share count : α) := inUnitInterval_share hcount
  by_cases hx : isPosInf x = true
  · rw [if_pos hx, if_pos (isPosInf_of_le h hx)]
    exact (le_self_of_le hshare.1).2
  · rw [if_neg hx]
    split
    · exact hshare.1
    · exact (le_self_of_le ofNat_zero_le_one).1

theorem weight_mono {x y top : α} (h : x ≤ y) (htop : y ≤ top) (hpos : isPosInf top = false)
    (hneg : isNegInf top = false) : exp (sub x top) ≤ exp (sub y top) :=
  exp_le_exp (sub_le_sub h (le_self_of_le htop).2 hpos hneg) (sub_le_zero htop hpos hneg)

theorem exists_monotone_part {values : List α} (h : ∀ x ∈ values, x ≤ x) :
    ∃ part : α → α, softmax values = values.map part ∧
      ∀ x ∈ values, ∀ y ∈ values, x ≤ y → part x ≤ part y := by
  cases values with
  | nil => exact ⟨id, rfl, by simp⟩
  | cons first rest =>
    obtain ⟨hmem, hle⟩ := peak_greatest h
    rw [softmax]
    split
    · next hpos =>
      exact ⟨_, rfl, fun x _ y _ => mass_mono (List.countP_pos_iff.2 ⟨_, hmem, hpos⟩)⟩
    · next hpos =>
      rw [Bool.not_eq_true] at hpos
      split
      · exact ⟨_, rfl, fun x _ y _ _ => (le_self_of_le (inUnitInterval_share (Nat.succ_pos _)).1).2⟩
      · next hall =>
        have hneg := isNegInf_peak h hall
        obtain ⟨hone, hweights⟩ := inUnitInterval_weights hmem hle hpos hneg
        have hsum := le_total (fun w hw => (hweights w hw).1) _ hone
        rw [normalize, ZeroShot.weights, List.map_map]
        refine ⟨_, rfl, ?_⟩
        intro x hx y hy hxy
        have hzero := (hweights _ (List.mem_map.2 ⟨x, hx, rfl⟩)).1
        have htop := (hweights _ (List.mem_map.2 ⟨y, hy, rfl⟩)).2
        exact div_le_div hzero (weight_mono hxy (hle y hy) hpos hneg) htop hsum

end

structure MonotoneExp (exp : Binary64 → Binary64) : Prop extends ExpBounds exp where
  exp_le_exp {x y : Binary64} : x ≤ y → y ≤ .zero → exp x ≤ exp y

theorem monotoneArithmetic_binary64 {exp : Binary64 → Binary64} (hexp : MonotoneExp exp) :
    @MonotoneArithmetic Binary64 (Binary64.arithmetic exp) _ :=
  letI := Binary64.arithmetic exp
  { unitArithmetic_binary64 hexp.toExpBounds with
    isPosInf_of_le := fun hle hpos =>
      decide_eq_true (Binary64.eq_posInf_of_le (of_decide_eq_true hpos ▸ hle))
    sub_le_sub := fun hle hnumber hpos hneg => Binary64.sub_le_sub hle
      (Binary64.isFinite_unpacked (Binary64.isNaN_eq_false_iff_le_self.2 hnumber)
        (of_decide_eq_false hpos) (of_decide_eq_false hneg))
    exp_le_exp := hexp.exp_le_exp
    div_le_div := fun {_ y _} hx hle hone hdiv =>
      have hfinite : y ≠ .posInf := by
        rintro rfl
        exact absurd hone (show ¬ Binary64.posInf ≤ Binary64.ofNat 1 by decide)
      Binary64.div_le_div hx hle hfinite hdiv }

theorem count_posInf_widen {logits : List Binary32} (h : ∀ x ∈ logits, x.isNaN = false) :
    (logits.map Binary32.widen).count .posInf = logits.count .posInf := by
  rw [List.count, List.countP_map]
  apply List.countP_congr
  intro x hx
  simpa using Binary32.widen_eq_posInf_iff (h x hx)

/-- Logits have their parts in their own order, with the rules for infinities. -/
theorem exists_monotone_part_widen {exp : Binary64 → Binary64} (hexp : MonotoneExp exp)
    {logits : List Binary32} (hnumbers : ∀ x ∈ logits, x.isNaN = false) :
    ∃ part : Binary32 → Binary64,
      @softmax Binary64 (Binary64.arithmetic exp) (logits.map Binary32.widen) =
        logits.map part ∧
      (∀ x ∈ logits, ∀ y ∈ logits, x ≤ y → part x ≤ part y) ∧
      (.posInf ∈ logits → ∀ x ∈ logits, part x =
        if x = .posInf then Binary64.one.div (.ofNat (logits.count .posInf)) else .zero) ∧
      ((∀ x ∈ logits, x = .negInf) → ∀ x ∈ logits,
        part x = Binary64.one.div (.ofNat logits.length)) := by
  let _ := Binary64.arithmetic exp
  have _ := monotoneArithmetic_binary64 hexp
  have hwiden : ∀ v ∈ logits.map Binary32.widen, v ≤ v := by
    intro v hv
    obtain ⟨x, hx, rfl⟩ := List.mem_map.1 hv
    exact Binary64.isNaN_eq_false_iff_le_self.1 (Binary32.isNaN_widen (hnumbers x hx))
  obtain ⟨part, hpart, hmono⟩ := exists_monotone_part hwiden
  refine ⟨fun x => part x.widen, by rw [hpart, List.map_map]; rfl, ?_, ?_, ?_⟩
  · intro x hx y hy hle
    exact hmono _ (List.mem_map_of_mem hx) _ (List.mem_map_of_mem hy) (Binary32.widen_le_widen hle)
  · intro hmem x hx
    have hinfinite : Binary64.posInf ∈ logits.map Binary32.widen := List.mem_map_of_mem hmem
    rw [Binary64.softmax_of_posInf_mem exp hinfinite, List.map_inj_left] at hpart
    have hshare := hpart _ (List.mem_map_of_mem hx)
    simp only [Binary32.widen_eq_posInf_iff (hnumbers x hx), count_posInf_widen hnumbers] at hshare
    exact hshare.symm
  · intro hall x hx
    have hinfinite : ∀ v ∈ logits.map Binary32.widen, v = .negInf := by
      intro v hv
      obtain ⟨y, hy, rfl⟩ := List.mem_map.1 hv
      rw [hall y hy]
      rfl
    rw [Binary64.softmax_of_all_negInf exp hinfinite, List.map_inj_left] at hpart
    have hshare := hpart _ (List.mem_map_of_mem hx)
    rw [List.length_map] at hshare
    exact hshare.symm

namespace LogitMatrix

/-- A competing candidate whose entailment logit is not greater has no greater score. If some of
the logits are `+∞`, their candidates share the mass and the others have none; if all are `-∞`, all
candidates share it. -/
theorem monotone_exclusive {exp : Binary64 → Binary64} (hexp : MonotoneExp exp)
    (m : LogitMatrix Binary32) (indices : ClassIndices) (hheight : 2 ≤ m.height)
    (he : indices.entailment < m.width) (hc : indices.contradiction < m.width)
    (hnumbers : ∀ x ∈ m.column ⟨indices.entailment, he⟩, x.isNaN = false) :
    ∃ score : Fin m.height → Binary64,
      m.scoreWith exp indices false = .ok (List.ofFn score) ∧
      (∀ i j, m.entry i ⟨_, he⟩ ≤ m.entry j ⟨_, he⟩ → score i ≤ score j) ∧
      (.posInf ∈ m.column ⟨_, he⟩ → ∀ i, score i =
        if m.entry i ⟨_, he⟩ = .posInf then
          Binary64.one.div (.ofNat ((m.column ⟨_, he⟩).count .posInf))
        else .zero) ∧
      ((∀ x ∈ m.column ⟨_, he⟩, x = .negInf) →
        ∀ i, score i = Binary64.one.div (.ofNat m.height)) := by
  obtain ⟨part, hpart, hmono, hpos, hneg⟩ := exists_monotone_part_widen hexp hnumbers
  have hentry (i : Fin m.height) : m.entry i ⟨_, he⟩ ∈ m.column ⟨_, he⟩ :=
    List.mem_map_of_mem (List.mem_finRange i)
  have hscore : m.scoreWith exp indices false = .ok ((m.column ⟨_, he⟩).map part) := by
    let _ := Binary64.arithmetic exp
    rw [← hpart, ← column_map]
    exact (m.map Binary32.widen).score_exclusive hheight he hc
  refine ⟨fun i => part (m.entry i ⟨_, he⟩), ?_, ?_, ?_, ?_⟩
  · rw [hscore, column, List.map_map, List.ofFn_eq_map]
    rfl
  · intro i j
    exact hmono _ (hentry i) _ (hentry j)
  · intro hmem i
    exact hpos hmem _ (hentry i)
  · intro hall i
    exact (hneg hall _ (hentry i)).trans (by rw [length_column])

def twoInfinite : LogitMatrix Binary32 where
  height := 3
  width := 3
  entries := [⟨0⟩, ⟨0⟩, ⟨0x7f800000⟩, ⟨0⟩, ⟨0⟩, ⟨0x7f7fffff⟩, ⟨0⟩, ⟨0⟩, ⟨0x7f800000⟩]
  length_entries := rfl

theorem monotoneExp_steepExp : MonotoneExp steepExp := by
  refine ⟨⟨by decide, ?_⟩, ?_⟩
  · intro x _
    unfold steepExp
    split <;> decide
  · intro x y hle hy
    obtain ⟨hx, hynan, hlevel⟩ := Binary64.le_iff.1 hle
    have hylevel := (Binary64.le_zero_iff.1 hy).2
    unfold steepExp
    by_cases hzero : x.magnitudeBits = 0
    · -- nothing lies between a zero and zero but zeros
      have hxlevel := (Binary64.level_eq_zero_iff hx).2 hzero
      rw [if_pos hzero, if_pos ((Binary64.level_eq_zero_iff hynan).1 (by omega))]
      decide
    · rw [if_neg hzero]
      split <;> decide

theorem monotone_exclusive_infinities :
    MonotoneExp steepExp ∧
      (∀ x ∈ farApart.column ⟨2, by decide⟩ ++ twoInfinite.column ⟨2, by decide⟩,
        x.isNaN = false) ∧
      (∃ score : Fin 3 → Binary64, farApart.scoreWith steepExp {} false = .ok (List.ofFn score) ∧
        score 2 ≤ score 0 ∧ score 0 ≤ score 1) ∧
      ∃ score : Fin 3 → Binary64,
        twoInfinite.scoreWith steepExp {} false = .ok (List.ofFn score) ∧
          score 0 = Binary64.one.div (.ofNat 2) ∧ score 1 = .zero ∧
          score 2 = Binary64.one.div (.ofNat 2) := by
  have hexp := monotoneExp_steepExp
  have hnumbers : ∀ x ∈ farApart.column ⟨2, by decide⟩ ++ twoInfinite.column ⟨2, by decide⟩,
      x.isNaN = false := by decide
  obtain ⟨score, hscore, hmono, -⟩ := monotone_exclusive hexp farApart {} (by decide) (by decide)
    (by decide) fun x hx => hnumbers x (List.mem_append_left _ hx)
  obtain ⟨share, hshare, -, hpos, -⟩ := monotone_exclusive hexp twoInfinite {} (by decide)
    (by decide) (by decide) fun x hx => hnumbers x (List.mem_append_right _ hx)
  have hmass := hpos (by decide)
  refine ⟨hexp, hnumbers, ⟨score, hscore, ?_, ?_⟩, share, hshare, ?_, ?_, ?_⟩
  · exact hmono ⟨2, by decide⟩ ⟨0, by decide⟩ (by decide)
  · exact hmono ⟨0, by decide⟩ ⟨1, by decide⟩ (by decide)
  · exact hmass ⟨0, by decide⟩
  · exact hmass ⟨1, by decide⟩
  · exact hmass ⟨2, by decide⟩

end LogitMatrix

end ZeroShot
