import Mathlib
import Navi.Base.Rounding
import Navi.Base.System

/-!
# Parameters that are tuned while memory is used

An activation moves the cue weights and the boost of a promotion, a reduction moves its delta, and
what a consolidation has learned moves a decay and a default confidence.
-/

namespace Navi.Memory

open Navi.Base

/-- The values of the parameters by name. -/
abbrev ParameterValues := String → Rat

/-- The shipped defaults of the parameters that are tuned or read for it. -/
def shippedParameters : ParameterValues := fun name =>
  (List.lookup name [("cue_weight_coverage", 60 / 100), ("cue_weight_jaccard", 25 / 100),
    ("cue_weight_sequence", 15 / 100), ("ltp_boost_delta", 5 / 100),
    ("decay_base_delta", 5 / 100), ("hebbian_learning_rate", 5 / 100),
    ("confidence_reduction_delta", 10 / 100),
    ("consolidation_default_confidence", 70 / 100)]).getD 0

/-- `strip().lower()` of a text, its features, and the ratio of a sequence matcher. -/
structure CueEngine where
  normalized : String → String
  textFeatures : String → Finset String
  ratio : String → String → Rat
  ratio_nonneg : ∀ a b, 0 ≤ ratio a b
  ratio_le_one : ∀ a b, ratio a b ≤ 1

/-! ## Cue weights -/

/-- The three weights, or what stands for them. -/
structure CueWeights where
  coverage : Rat
  jaccard : Rat
  sequence : Rat

namespace CueWeights

def sum (w : CueWeights) : Rat := w.coverage + w.jaccard + w.sequence

def map (f : Rat → Rat) (w : CueWeights) : CueWeights := ⟨f w.coverage, f w.jaccard, f w.sequence⟩

def zip (f : Rat → Rat → Rat) (v w : CueWeights) : CueWeights :=
  ⟨f v.coverage w.coverage, f v.jaccard w.jaccard, f v.sequence w.sequence⟩

def All (P : Rat → Prop) (w : CueWeights) : Prop := P w.coverage ∧ P w.jaccard ∧ P w.sequence

end CueWeights

/-- What a query and a content have in common, nothing where they share no feature. -/
def cueMatch (engine : CueEngine) (query content : String) : CueWeights :=
  let queryText := engine.normalized query
  let contentText := engine.normalized content
  let queryFeatures := engine.textFeatures queryText
  let contentFeatures := engine.textFeatures contentText
  let shared : Rat := (queryFeatures ∩ contentFeatures).card
  let gate : Rat := if queryFeatures ∩ contentFeatures = ∅ then 0 else 1
  ⟨shared / max 1 (queryFeatures.card : Rat) * gate,
    shared / max 1 ((queryFeatures ∪ contentFeatures).card : Rat) * gate,
    engine.ratio queryText contentText * gate⟩

def targetWeights (found current : CueWeights) : CueWeights :=
  found.zip (fun f c => (f + 1 / 10 ^ 4 * c) / (found.sum + 1 / 10 ^ 4)) current

/-- The weights before they are normalised. -/
def movedWeights (rate : Rat) (found current : CueWeights) : CueWeights :=
  let eta := rate * (found.sum / (found.sum + 1 / 10 ^ 4))
  (targetWeights found current).zip (fun t c => max (1 / 100) (c + eta * (t - c))) current

/-- The normalised weights, of which the last is what the others leave. -/
def normalizedWeights (moved : CueWeights) : CueWeights :=
  let norm := max (1 / 10 ^ 6) moved.sum
  let coverage := roundTo 4 (moved.coverage / norm)
  let jaccard := roundTo 4 (moved.jaccard / norm)
  ⟨coverage, jaccard, roundTo 4 (1 - coverage - jaccard)⟩

/-- The weights among the parameters. -/
def cueWeights (p : ParameterValues) : CueWeights :=
  ⟨p "cue_weight_coverage", p "cue_weight_jaccard", p "cue_weight_sequence"⟩

/-- `_adapt_cue_weights_hebbian`. -/
def adaptCueWeightsHebbian (engine : CueEngine) (query content : String) (p : ParameterValues) :
    ParameterValues :=
  let weights := normalizedWeights
    (movedWeights (p "hebbian_learning_rate") (cueMatch engine query content) (cueWeights p))
  Function.update (Function.update (Function.update p "cue_weight_coverage" weights.coverage)
    "cue_weight_jaccard" weights.jaccard) "cue_weight_sequence" weights.sequence

/-! ## The calls -/

/-- A call, with what it reads of the item or of the learning. -/
inductive TuningCall where
  | recordActivation (query content : String) (proposed : Bool)
  | reduceConfidence (confidence : Rat)
  | insertAddLearning (confidence : Option Rat)
  | applyLearningRevoke

/-- What `_do_record_activation` does to the parameters. -/
def recordActivationTuning (engine : CueEngine) (query content : String) (proposed : Bool)
    (p : ParameterValues) : ParameterValues :=
  let adapted := adaptCueWeightsHebbian engine query content p
  if proposed then
    Function.update adapted "ltp_boost_delta"
      (roundTo 4 (min (20 / 100) (max (1 / 100) (adapted "ltp_boost_delta" + 2 / 1000))))
  else adapted

/-- What `_do_reduce_confidence` without a delta does to them. -/
def reduceConfidenceTuning (confidence : Rat) (p : ParameterValues) : ParameterValues :=
  Function.update p "confidence_reduction_delta"
    (roundTo 4 (min (30 / 100) (max (2 / 100) (p "confidence_reduction_delta"
      + p "hebbian_learning_rate" * (1 / 100) * (confidence - 1 / 2)))))

/-- What `_insert_add_learning` does to them; no confidence where the model's is no number. -/
def insertAddLearningTuning (confidence : Option Rat) (p : ParameterValues) : ParameterValues :=
  let default := p "consolidation_default_confidence"
  Function.update p "consolidation_default_confidence"
    (roundTo 4 ((1 - 5 / 100) * default + 5 / 100 * confidence.getD default))

/-- What `_apply_learning_revoke` does to them. -/
def applyLearningRevokeTuning (p : ParameterValues) : ParameterValues :=
  Function.update p "decay_base_delta"
    (roundTo 4 (min (20 / 100) (p "decay_base_delta" + 5 / 1000)))

def tuned (engine : CueEngine) (p : ParameterValues) : TuningCall → ParameterValues
  | .recordActivation query content proposed =>
      recordActivationTuning engine query content proposed p
  | .reduceConfidence confidence => reduceConfidenceTuning confidence p
  | .insertAddLearning confidence => insertAddLearningTuning confidence p
  | .applyLearningRevoke => applyLearningRevokeTuning p

def tuningSystem (engine : CueEngine) : System ParameterValues TuningCall where
  step p call := some (tuned engine p call)

/-! ## What is claimed -/

/-- The parameters are in their ranges. -/
structure InRange (p : ParameterValues) : Prop where
  weights_pos : (cueWeights p).All (0 < ·)
  weights_sum : (cueWeights p).sum = 1
  boost : 1 / 100 ≤ p "ltp_boost_delta" ∧ p "ltp_boost_delta" ≤ 20 / 100
  reduction : 2 / 100 ≤ p "confidence_reduction_delta" ∧ p "confidence_reduction_delta" ≤ 30 / 100
  decay : 0 ≤ p "decay_base_delta" ∧ p "decay_base_delta" ≤ 20 / 100
  confidence : 0 ≤ p "consolidation_default_confidence"
    ∧ p "consolidation_default_confidence" ≤ 1

/-- The confidence that the model supplies is not further from the default than makes up for the
weight of nineteen to one. -/
def MildConfidence (p : ParameterValues) : TuningCall → Prop
  | .insertAddLearning (some confidence) =>
      -1 / 1000 ≤ 19 * p "consolidation_default_confidence" + confidence
        ∧ 19 * p "consolidation_default_confidence" + confidence ≤ 20 + 1 / 1000
  | _ => True

/-! ## Weights that stay positive -/

section

variable {engine : CueEngine} {found current : CueWeights} {rate : Rat}

theorem cueMatch_nonneg (engine : CueEngine) (query content : String) :
    (cueMatch engine query content).All (0 ≤ ·) := by
  have hgate : ∀ p : Prop, ∀ [Decidable p], (0 : Rat) ≤ if p then 0 else 1 := by
    intro p _
    split <;> norm_num
  refine ⟨?_, ?_, ?_⟩
  · exact mul_nonneg (by positivity) (hgate _)
  · exact mul_nonneg (by positivity) (hgate _)
  · exact mul_nonneg (engine.ratio_nonneg _ _) (hgate _)

theorem step_nonneg {c t eta : Rat} (hc : 0 ≤ c) (ht : 0 ≤ t) (heta : 0 ≤ eta) (hone : eta ≤ 1) :
    0 ≤ c + eta * (t - c) := by
  have hsplit : c + eta * (t - c) = (1 - eta) * c + eta * t := by ring
  rw [hsplit]
  exact add_nonneg (mul_nonneg (by linarith) hc) (mul_nonneg heta ht)

theorem movedWeights_bounds (hrate : 0 ≤ rate) (hone : rate ≤ 1) (hfound : found.All (0 ≤ ·))
    (hcurrent : current.All (0 < ·)) (hsum : current.sum = 1) :
    (movedWeights rate found current).All (1 / 100 ≤ ·)
      ∧ (movedWeights rate found current).sum ≤ 1 + 3 / 100 := by
  obtain ⟨hfc, hfj, hfs⟩ := hfound
  obtain ⟨hcc, hcj, hcs⟩ := hcurrent
  have hpos : 0 < found.sum + 1 / 10 ^ 4 := by
    have : 0 ≤ found.sum := add_nonneg (add_nonneg hfc hfj) hfs
    positivity
  have hfoundSum : 0 ≤ found.sum := add_nonneg (add_nonneg hfc hfj) hfs
  generalize heta : rate * (found.sum / (found.sum + 1 / 10 ^ 4)) = eta
  have hetaNonneg : 0 ≤ eta := by
    rw [← heta]
    exact mul_nonneg hrate (div_nonneg hfoundSum hpos.le)
  have hetaOne : eta ≤ 1 := by
    rw [← heta]
    refine mul_le_one₀ hone (div_nonneg hfoundSum hpos.le) ((div_le_one hpos).mpr ?_)
    linarith [show (0 : Rat) ≤ 1 / 10 ^ 4 by positivity]
  -- the targets sum to one as the weights do
  have htargets : (targetWeights found current).sum = 1 := by
    have hnum : (found.coverage + 1 / 10 ^ 4 * current.coverage)
        + (found.jaccard + 1 / 10 ^ 4 * current.jaccard)
        + (found.sequence + 1 / 10 ^ 4 * current.sequence) = found.sum + 1 / 10 ^ 4 := by
      have hexpand : found.sum + 1 / 10 ^ 4 = found.sum + 1 / 10 ^ 4 * current.sum := by
        rw [hsum, mul_one]
      rw [hexpand]
      unfold CueWeights.sum
      ring
    show (found.coverage + 1 / 10 ^ 4 * current.coverage) / (found.sum + 1 / 10 ^ 4)
      + (found.jaccard + 1 / 10 ^ 4 * current.jaccard) / (found.sum + 1 / 10 ^ 4)
      + (found.sequence + 1 / 10 ^ 4 * current.sequence) / (found.sum + 1 / 10 ^ 4) = 1
    rw [← add_div, ← add_div, hnum, div_self hpos.ne']
  have htarget : ∀ {f c : Rat}, 0 ≤ f → 0 < c →
      0 ≤ (f + 1 / 10 ^ 4 * c) / (found.sum + 1 / 10 ^ 4) := fun hf hc =>
    div_nonneg (add_nonneg hf (by positivity)) hpos.le
  have hcover := step_nonneg hcc.le (htarget hfc hcc) hetaNonneg hetaOne
  have hjaccard := step_nonneg hcj.le (htarget hfj hcj) hetaNonneg hetaOne
  have hsequence := step_nonneg hcs.le (htarget hfs hcs) hetaNonneg hetaOne
  have hmax : ∀ {x : Rat}, 0 ≤ x → max (1 / 100) x ≤ x + 1 / 100 := fun hx =>
    max_le (by linarith) (by linarith)
  unfold movedWeights
  rw [heta]
  refine ⟨⟨le_max_left _ _, le_max_left _ _, le_max_left _ _⟩, ?_⟩
  have hbound := add_le_add (add_le_add (hmax hcover) (hmax hjaccard)) (hmax hsequence)
  refine hbound.trans ?_
  unfold CueWeights.sum at htargets hsum
  unfold targetWeights CueWeights.zip at htargets
  dsimp only at htargets
  nlinarith [htargets, hsum]

theorem onGrid_one_sub {digits : Nat} {a b : Rat} (ha : OnGrid digits a) (hb : OnGrid digits b) :
    OnGrid digits (1 - a - b) := by
  obtain ⟨n, hn⟩ := ha
  obtain ⟨m, hm⟩ := hb
  refine ⟨10 ^ digits - n - m, ?_⟩
  push_cast
  rw [sub_mul, sub_mul, hn, hm, one_mul]

theorem normalizedWeights_good {moved : CueWeights} (hmoved : moved.All (1 / 100 ≤ ·))
    (hsum : moved.sum ≤ 1 + 3 / 100) :
    (normalizedWeights moved).All (0 < ·) ∧ (normalizedWeights moved).sum = 1 := by
  obtain ⟨hc, hj, hs⟩ := hmoved
  have hlow : 3 / 100 ≤ moved.sum := by
    unfold CueWeights.sum
    linarith
  have hnorm : max (1 / 10 ^ 6) moved.sum = moved.sum := max_eq_right (by norm_num; linarith)
  have hpos : 0 < moved.sum := by linarith
  have hshare : ∀ {x : Rat}, 1 / 100 ≤ x → 97 / 10000 ≤ x / moved.sum := fun hx => by
    rw [le_div_iff₀ hpos]
    linarith
  have hgrid : OnGrid 4 (97 / 10000) := ⟨97, by norm_num⟩
  have hcover : 97 / 10000 ≤ roundTo 4 (moved.coverage / moved.sum) := le_roundTo hgrid (hshare hc)
  have hjaccard : 97 / 10000 ≤ roundTo 4 (moved.jaccard / moved.sum) := le_roundTo hgrid (hshare hj)
  -- the last weight is its share but for the rounding of the two others
  have hshares : moved.coverage / moved.sum + moved.jaccard / moved.sum
      + moved.sequence / moved.sum = 1 := by
    rw [← add_div, ← add_div]
    exact div_self hpos.ne'
  have hcoverUp := roundTo_le_add 4 (moved.coverage / moved.sum)
  have hjaccardUp := roundTo_le_add 4 (moved.jaccard / moved.sum)
  have hlast := hshare hs
  have hexact : roundTo 4 (1 - roundTo 4 (moved.coverage / moved.sum)
        - roundTo 4 (moved.jaccard / moved.sum))
      = 1 - roundTo 4 (moved.coverage / moved.sum) - roundTo 4 (moved.jaccard / moved.sum) :=
    roundTo_of_onGrid (onGrid_one_sub (roundTo_onGrid _ _) (roundTo_onGrid _ _))
  unfold normalizedWeights
  rw [hnorm]
  dsimp only
  rw [hexact]
  refine ⟨⟨by linarith, by linarith, ?_⟩, ?_⟩
  · norm_num at hcoverUp hjaccardUp
    show 0 < 1 - roundTo 4 (moved.coverage / moved.sum) - roundTo 4 (moved.jaccard / moved.sum)
    linarith
  · show roundTo 4 (moved.coverage / moved.sum) + roundTo 4 (moved.jaccard / moved.sum)
      + (1 - roundTo 4 (moved.coverage / moved.sum) - roundTo 4 (moved.jaccard / moved.sum)) = 1
    ring

/-! ## One call -/

variable {p : ParameterValues}

/-- What a call does not tune, and the ranges of all but the default confidence. -/
structure Tuned (p : ParameterValues) : Prop where
  weights_pos : (cueWeights p).All (0 < ·)
  weights_sum : (cueWeights p).sum = 1
  boost : 1 / 100 ≤ p "ltp_boost_delta" ∧ p "ltp_boost_delta" ≤ 20 / 100
  reduction : 2 / 100 ≤ p "confidence_reduction_delta" ∧ p "confidence_reduction_delta" ≤ 30 / 100
  decay : 0 ≤ p "decay_base_delta" ∧ p "decay_base_delta" ≤ 20 / 100
  rate : p "hebbian_learning_rate" = 5 / 100

theorem roundTo_clamp (low high : Rat) (hlow : OnGrid 4 low) (hhigh : OnGrid 4 high)
    (hle : low ≤ high) (x : Rat) :
    low ≤ roundTo 4 (min high (max low x)) ∧ roundTo 4 (min high (max low x)) ≤ high :=
  ⟨le_roundTo hlow (le_min hle (le_max_left _ _)), roundTo_le hhigh (min_le_left _ _)⟩

theorem cueWeights_adapt (engine : CueEngine) (query content : String) (p : ParameterValues) :
    cueWeights (adaptCueWeightsHebbian engine query content p) = normalizedWeights
      (movedWeights (p "hebbian_learning_rate") (cueMatch engine query content)
        (cueWeights p)) := by
  simp [cueWeights, adaptCueWeightsHebbian, Function.update]

theorem Tuned.adapt (h : Tuned p) (engine : CueEngine) (query content : String) :
    Tuned (adaptCueWeightsHebbian engine query content p) := by
  have hnonneg : 0 ≤ p "hebbian_learning_rate" := by
    rw [h.rate]
    norm_num
  have hle : p "hebbian_learning_rate" ≤ 1 := by
    rw [h.rate]
    norm_num
  obtain ⟨hbounds, hsum⟩ := movedWeights_bounds hnonneg hle (cueMatch_nonneg engine query content)
    h.weights_pos h.weights_sum
  obtain ⟨hpos, hone⟩ := normalizedWeights_good hbounds hsum
  have hother : ∀ name, name ≠ "cue_weight_coverage" → name ≠ "cue_weight_jaccard" →
      name ≠ "cue_weight_sequence" →
        adaptCueWeightsHebbian engine query content p name = p name := by
    intro name hcover hjaccard hsequence
    simp [adaptCueWeightsHebbian, Function.update, hcover, hjaccard, hsequence]
  have hkept : ∀ name ∈ ["ltp_boost_delta", "confidence_reduction_delta", "decay_base_delta",
      "hebbian_learning_rate"], adaptCueWeightsHebbian engine query content p name = p name := by
    intro name hname
    refine hother name ?_ ?_ ?_ <;>
      · rintro rfl
        revert hname
        decide
  constructor
  · rwa [cueWeights_adapt]
  · rwa [cueWeights_adapt]
  · rw [hkept _ (by decide)]
    exact h.boost
  · rw [hkept _ (by decide)]
    exact h.reduction
  · rw [hkept _ (by decide)]
    exact h.decay
  · rw [hkept _ (by decide)]
    exact h.rate

theorem Tuned.tuned (h : Tuned p) (engine : CueEngine) (call : TuningCall) :
    Tuned (tuned engine p call) := by
  cases call with
  | recordActivation query content proposed =>
      have hadapted := h.adapt engine query content
      show Tuned (recordActivationTuning engine query content proposed p)
      unfold recordActivationTuning
      cases proposed with
      | false => exact hadapted
      | true =>
          have hboost := roundTo_clamp (1 / 100) (20 / 100) ⟨100, by norm_num⟩
            ⟨2000, by norm_num⟩ (by norm_num)
            (adaptCueWeightsHebbian engine query content p "ltp_boost_delta" + 2 / 1000)
          exact ⟨hadapted.weights_pos, hadapted.weights_sum, hboost, hadapted.reduction,
            hadapted.decay, hadapted.rate⟩
  | reduceConfidence confidence =>
      have hreduction := roundTo_clamp (2 / 100) (30 / 100) ⟨200, by norm_num⟩
        ⟨3000, by norm_num⟩ (by norm_num) (p "confidence_reduction_delta"
          + p "hebbian_learning_rate" * (1 / 100) * (confidence - 1 / 2))
      exact ⟨h.weights_pos, h.weights_sum, h.boost, hreduction, h.decay, h.rate⟩
  | insertAddLearning confidence =>
      exact ⟨h.weights_pos, h.weights_sum, h.boost, h.reduction, h.decay, h.rate⟩
  | applyLearningRevoke =>
      have hdecay : 0 ≤ roundTo 4 (min (20 / 100) (p "decay_base_delta" + 5 / 1000))
          ∧ roundTo 4 (min (20 / 100) (p "decay_base_delta" + 5 / 1000)) ≤ 20 / 100 := by
        have hnonneg := h.decay.1
        refine ⟨le_roundTo ⟨0, by norm_num⟩ (le_min (by norm_num) (by linarith)),
          roundTo_le ⟨2000, by norm_num⟩ (min_le_left _ _)⟩
      exact ⟨h.weights_pos, h.weights_sum, h.boost, h.reduction, hdecay, h.rate⟩

/-- A call that is not the learning of a confidence from the model keeps the default in range, and
one that is does so exactly if the confidence is mild. -/
theorem confidence_tuned_iff (h : 0 ≤ p "consolidation_default_confidence"
      ∧ p "consolidation_default_confidence" ≤ 1) (engine : CueEngine) (call : TuningCall) :
    (0 ≤ tuned engine p call "consolidation_default_confidence"
        ∧ tuned engine p call "consolidation_default_confidence" ≤ 1)
      ↔ MildConfidence p call := by
  cases call with
  | recordActivation query content proposed =>
      have hsame : tuned engine p (.recordActivation query content proposed)
          "consolidation_default_confidence" = p "consolidation_default_confidence" := by
        cases proposed <;>
          simp [tuned, recordActivationTuning, adaptCueWeightsHebbian, Function.update]
      rw [hsame]
      exact iff_of_true h trivial
  | reduceConfidence confidence => exact iff_of_true h trivial
  | applyLearningRevoke => exact iff_of_true h trivial
  | insertAddLearning confidence =>
      generalize hdefault : p "consolidation_default_confidence" = default at h
      have hnew : tuned engine p (.insertAddLearning confidence)
          "consolidation_default_confidence"
            = roundTo 4 ((1 - 5 / 100) * default + 5 / 100 * confidence.getD default) := by
        simp [tuned, insertAddLearningTuning, hdefault]
      rw [hnew]
      cases confidence with
      | none =>
          have hkept : (1 - 5 / 100) * default + 5 / 100 * default = default := by ring
          rw [Option.getD_none, hkept]
          exact iff_of_true ⟨le_roundTo ⟨0, by norm_num⟩ h.1, roundTo_le ⟨10000, by norm_num⟩ h.2⟩
            trivial
      | some confidence =>
          rw [Option.getD_some]
          have hten : (0 : Rat) < 10 ^ 4 := by norm_num
          have hlow := @le_halfEven_iff 0 (by norm_num)
            (((1 - 5 / 100) * default + 5 / 100 * confidence) * 10 ^ 4)
          have hhigh := @halfEven_le_iff (10 ^ 4) (by norm_num)
            (((1 - 5 / 100) * default + 5 / 100 * confidence) * 10 ^ 4)
          rw [← @Int.cast_le Rat] at hlow hhigh
          push_cast at hlow hhigh
          unfold roundTo MildConfidence
          rw [show (10 ^ 4 : Rat) = 10000 by norm_num] at hten hlow hhigh ⊢
          rw [le_div_iff₀ hten, zero_mul, div_le_one hten, hlow, hhigh, hdefault]
          constructor
          · rintro ⟨hbelow, habove⟩
            exact ⟨by linarith, by linarith⟩
          · rintro ⟨hbelow, habove⟩
            exact ⟨by linarith, by linarith⟩

end

/-! ## Runs -/

theorem tuned_shippedParameters : Tuned shippedParameters := by
  constructor
  · refine ⟨?_, ?_, ?_⟩ <;> decide +kernel
  all_goals decide +kernel

/-- **The tuned parameters stay in range** in a run from the shipped defaults exactly if every
confidence that the model supplies is mild. -/
theorem parameters_inRange_iff (engine : CueEngine) (calls : List TuningCall) :
    (∀ n p, (tuningSystem engine).run shippedParameters (calls.take n) = some p → InRange p)
      ↔ (tuningSystem engine).Along MildConfidence shippedParameters calls := by
  have hkeeps : ∀ p call p', Tuned p → (tuningSystem engine).step p call = some p' → Tuned p' := by
    intro p call p' h hstep
    obtain rfl := Option.some.inj hstep
    exact h.tuned engine call
  have hiff : ∀ p, Tuned p → (InRange p ↔ 0 ≤ p "consolidation_default_confidence"
      ∧ p "consolidation_default_confidence" ≤ 1) := fun p h =>
    ⟨fun hp => hp.confidence,
      fun hp => ⟨h.weights_pos, h.weights_sum, h.boost, h.reduction, h.decay, hp⟩⟩
  refine (tuningSystem engine).run_good_iff hkeeps ?_ (fun p call _ => ⟨_, rfl⟩)
    tuned_shippedParameters ((hiff _ tuned_shippedParameters).mpr (by decide +kernel)) calls
  intro p call p' h hgood hstep
  obtain rfl := Option.some.inj hstep
  rw [hiff _ (h.tuned engine call)]
  exact confidence_tuned_iff hgood.confidence engine call

/-- Features of no text, and a ratio of nothing. -/
def blankCues : CueEngine where
  normalized text := text
  textFeatures _ := ∅
  ratio _ _ := 0
  ratio_nonneg _ _ := le_rfl
  ratio_le_one _ _ := zero_le_one

/-- A model that supplies a confidence of a hundred. -/
theorem hundred_inRange_not :
    ¬ (∀ n p, (tuningSystem blankCues).run shippedParameters
          ([TuningCall.insertAddLearning (some 100)].take n) = some p → InRange p)
      ∧ tuned blankCues shippedParameters (.insertAddLearning (some 100))
        "consolidation_default_confidence" = 5665 / 1000 := by
  have hvalue : tuned blankCues shippedParameters (.insertAddLearning (some 100))
      "consolidation_default_confidence" = 5665 / 1000 := by
    decide +kernel
  refine ⟨fun h => ?_, hvalue⟩
  have hrange := (h 1 _ rfl).confidence.2
  rw [hvalue] at hrange
  norm_num at hrange

end Navi.Memory
