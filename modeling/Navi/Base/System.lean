import Mathlib

/-!
# Labelled systems and their runs

Two shapes of transition system. A `Machine` answers every call and returns an
output, which is how a store behind a lock looks. A `System` takes a labelled
step only where the label is enabled, which is how several parties with local
state look when their statements interleave.

A property of a run is proved from one step lemma: `run_preserves` for a
`Machine`, `run_preserves_along` for a `System` whose steps are known to meet a
condition in the state before them.
-/

namespace Navi.Base

universe u v w

/-- A total transition function with outputs. -/
structure Machine (σ : Type u) (ι : Type v) (ο : Type w) where
  /-- The state after a call, and what the call returned. -/
  step : σ → ι → σ × ο

namespace Machine

variable {σ : Type u} {ι : Type v} {ο : Type w} (m : Machine σ ι ο)

/-- The state after a sequence of calls. -/
def run : σ → List ι → σ
  | s, [] => s
  | s, i :: is => run (m.step s i).1 is

/-- Every call of a run, paired with what it returned. -/
def trace : σ → List ι → List (ι × ο)
  | _, [] => []
  | s, i :: is => (i, (m.step s i).2) :: trace (m.step s i).1 is

@[simp] theorem run_nil (s : σ) : m.run s [] = s := rfl

@[simp] theorem run_cons (s : σ) (i : ι) (is : List ι) :
    m.run s (i :: is) = m.run (m.step s i).1 is := rfl

@[simp] theorem trace_nil (s : σ) : m.trace s [] = [] := rfl

@[simp] theorem trace_cons (s : σ) (i : ι) (is : List ι) :
    m.trace s (i :: is) = (i, (m.step s i).2) :: m.trace (m.step s i).1 is := rfl

theorem run_append (s : σ) (is js : List ι) :
    m.run s (is ++ js) = m.run (m.run s is) js := by
  induction is generalizing s with
  | nil => rfl
  | cons i is ih => simp [ih]

theorem trace_append (s : σ) (is js : List ι) :
    m.trace s (is ++ js) = m.trace s is ++ m.trace (m.run s is) js := by
  induction is generalizing s with
  | nil => rfl
  | cons i is ih => simp [ih]

theorem run_preserves {I : σ → Prop} (keeps : ∀ s i, I s → I (m.step s i).1)
    {s : σ} (hs : I s) (is : List ι) : I (m.run s is) := by
  induction is generalizing s with
  | nil => exact hs
  | cons i is ih => exact ih (keeps s i hs)

theorem trace_forall {I : σ → Prop} {P : ι → ο → Prop}
    (keeps : ∀ s i, I s → I (m.step s i).1) (outputs : ∀ s i, I s → P i (m.step s i).2)
    {s : σ} (hs : I s) (is : List ι) : ∀ e ∈ m.trace s is, P e.1 e.2 := by
  induction is generalizing s with
  | nil => simp
  | cons i is ih =>
      intro e he
      rcases List.mem_cons.mp he with rfl | he
      · exact outputs s i hs
      · exact ih (keeps s i hs) e he

/-- A quantity that every step changes by what the step gained less what it
lost changes over a run by the totals. -/
theorem trace_balance {I : σ → Prop} (level : σ → Nat) (gain loss : ι × ο → Nat)
    (keeps : ∀ s i, I s → I (m.step s i).1)
    (balance : ∀ s i, I s →
      level s + gain (i, (m.step s i).2) = level (m.step s i).1 + loss (i, (m.step s i).2))
    {s : σ} (hs : I s) (is : List ι) :
    level s + ((m.trace s is).map gain).sum
      = level (m.run s is) + ((m.trace s is).map loss).sum := by
  induction is generalizing s with
  | nil => simp
  | cons i is ih =>
      have hstep := balance s i hs
      have hrest := ih (keeps s i hs)
      simp only [trace_cons, run_cons, List.map_cons, List.sum_cons]
      omega

end Machine

/-- A partial transition function: `none` where the label is not enabled. -/
structure System (σ : Type u) (ι : Type v) where
  /-- The state a label leads to. -/
  step : σ → ι → Option σ

namespace System

variable {σ : Type u} {ι : Type v} (sys : System σ ι)

/-- The state after a sequence of labels, each enabled in its turn. -/
def run : σ → List ι → Option σ
  | s, [] => some s
  | s, i :: is => (sys.step s i).bind fun s' => run s' is

/-- Every step of the run meets `cond` in the state before it. -/
def Along (cond : σ → ι → Prop) : σ → List ι → Prop
  | _, [] => True
  | s, i :: is => cond s i ∧ ∀ s' ∈ sys.step s i, Along cond s' is

@[simp] theorem run_nil (s : σ) : sys.run s [] = some s := rfl

@[simp] theorem run_cons (s : σ) (i : ι) (is : List ι) :
    sys.run s (i :: is) = (sys.step s i).bind fun s' => sys.run s' is := rfl

@[simp] theorem along_nil (cond : σ → ι → Prop) (s : σ) : sys.Along cond s [] := trivial

@[simp] theorem along_cons (cond : σ → ι → Prop) (s : σ) (i : ι) (is : List ι) :
    sys.Along cond s (i :: is) ↔ cond s i ∧ ∀ s' ∈ sys.step s i, sys.Along cond s' is := Iff.rfl

instance decidableAlong {cond : σ → ι → Prop} [∀ s i, Decidable (cond s i)] :
    (s : σ) → (is : List ι) → Decidable (sys.Along cond s is)
  | _, [] => inferInstanceAs (Decidable True)
  | s, i :: is =>
      have : ∀ s', Decidable (sys.Along cond s' is) := fun s' => decidableAlong s' is
      inferInstanceAs (Decidable (cond s i ∧ ∀ s' ∈ sys.step s i, sys.Along cond s' is))

theorem along_cons_of_some {cond : σ → ι → Prop} {s s' : σ} {i : ι} {is : List ι} (hcond : cond s i)
    (hstep : sys.step s i = some s') (hrest : sys.Along cond s' is) : sys.Along cond s (i :: is) :=
  ⟨hcond, fun next hnext => by
    rw [hstep] at hnext
    exact Option.some.inj hnext ▸ hrest⟩

theorem run_append (s : σ) (is js : List ι) :
    sys.run s (is ++ js) = (sys.run s is).bind fun s' => sys.run s' js := by
  induction is generalizing s with
  | nil => rfl
  | cons i is ih =>
      simp only [List.cons_append, run_cons, Option.bind_assoc]
      congr 1
      funext s'
      exact ih s'

theorem along_append {cond : σ → ι → Prop} {s : σ} {is js : List ι} :
    sys.Along cond s (is ++ js)
      ↔ sys.Along cond s is ∧ ∀ s' ∈ sys.run s is, sys.Along cond s' js := by
  induction is generalizing s with
  | nil => simp
  | cons i is ih =>
      simp only [List.cons_append, along_cons, run_cons, Option.mem_def, Option.bind_eq_some_iff]
      constructor
      · rintro ⟨hc, hrest⟩
        refine ⟨⟨hc, fun s' hs' => (ih.mp (hrest s' hs')).1⟩, ?_⟩
        rintro s'' ⟨s', hs', hrun⟩
        exact (ih.mp (hrest s' hs')).2 s'' hrun
      · rintro ⟨⟨hc, hfirst⟩, hlast⟩
        exact ⟨hc, fun s' hs' => ih.mpr ⟨hfirst s' hs', fun s'' hrun => hlast s'' ⟨s', hs', hrun⟩⟩⟩

theorem run_preserves_along {I : σ → Prop} {cond : σ → ι → Prop}
    (keeps : ∀ s i s', I s → cond s i → sys.step s i = some s' → I s')
    {s s' : σ} {is : List ι} (hs : I s) (hc : sys.Along cond s is)
    (hrun : sys.run s is = some s') : I s' := by
  induction is generalizing s with
  | nil =>
      obtain rfl := Option.some.inj hrun
      exact hs
  | cons i is ih =>
      obtain ⟨mid, hmid, hrest⟩ := Option.bind_eq_some_iff.mp hrun
      exact ih (keeps s i mid hs hc.1 hmid) (hc.2 mid hmid) hrest

/-- A property of the steps that an invariant and the condition give holds along
every run whose steps meet the condition. -/
theorem along_of_invariant {I : σ → Prop} {cond P : σ → ι → Prop}
    (keeps : ∀ s i s', I s → cond s i → sys.step s i = some s' → I s')
    (gives : ∀ s i, I s → cond s i → P s i) {s : σ} {is : List ι} (hs : I s)
    (hc : sys.Along cond s is) : sys.Along P s is := by
  induction is generalizing s with
  | nil => trivial
  | cons i is ih =>
      refine ⟨gives s i hs hc.1, fun s' hs' => ?_⟩
      exact ih (keeps s i s' hs hc.1 hs') (hc.2 s' hs')

/-- When a step from a good invariant state leads to a good one exactly if it
meets the condition, and no step that fails the condition is disabled, all
states of a run are good exactly if all its steps meet the condition. The steps
that meet it keep the invariant. -/
theorem run_good_along_iff {I G : σ → Prop} {cond : σ → ι → Prop}
    (keeps : ∀ s i s', I s → cond s i → sys.step s i = some s' → I s')
    (stays : ∀ s i s', I s → G s → sys.step s i = some s' → (G s' ↔ cond s i))
    (enabled : ∀ s i, ¬ cond s i → ∃ s', sys.step s i = some s')
    {s : σ} (hs : I s) (hgood : G s) (is : List ι) :
    (∀ n s', sys.run s (is.take n) = some s' → G s') ↔ sys.Along cond s is := by
  induction is generalizing s with
  | nil => simpa using hgood
  | cons i is ih =>
      constructor
      · intro hall
        have hmeets : cond s i := by
          by_contra hfails
          obtain ⟨s', hs'⟩ := enabled s i hfails
          exact hfails ((stays s i s' hs hgood hs').mp (hall 1 s' (by simp [hs'])))
        refine ⟨hmeets, fun mid hmid => ?_⟩
        have hmidGood : G mid := hall 1 mid (by simpa using hmid)
        refine (ih (keeps s i mid hs hmeets hmid) hmidGood).mp fun n s' hrun => hall (n + 1) s' ?_
        rw [List.take_succ_cons, run_cons, Option.mem_def.mp hmid]
        exact hrun
      · rintro ⟨hmeets, hrest⟩ n s' hrun
        cases n with
        | zero =>
            obtain rfl := Option.some.inj hrun
            exact hgood
        | succ n =>
            obtain ⟨mid, hmid, hrun⟩ := Option.bind_eq_some_iff.mp hrun
            have hmidGood := (stays s i mid hs hgood hmid).mpr hmeets
            exact (ih (keeps s i mid hs hmeets hmid) hmidGood).mpr (hrest mid hmid) n s' hrun

theorem run_good_iff {I G : σ → Prop} {cond : σ → ι → Prop}
    (keeps : ∀ s i s', I s → sys.step s i = some s' → I s')
    (stays : ∀ s i s', I s → G s → sys.step s i = some s' → (G s' ↔ cond s i))
    (enabled : ∀ s i, ¬ cond s i → ∃ s', sys.step s i = some s')
    {s : σ} (hs : I s) (hgood : G s) (is : List ι) :
    (∀ n s', sys.run s (is.take n) = some s' → G s') ↔ sys.Along cond s is :=
  sys.run_good_along_iff (fun s i s' hI _ => keeps s i s' hI) stays enabled hs hgood is

theorem run_preserves {I : σ → Prop} (keeps : ∀ s i s', I s → sys.step s i = some s' → I s')
    {s s' : σ} {is : List ι} (hs : I s) (hrun : sys.run s is = some s') : I s' := by
  have halong : ∀ (is : List ι) (s : σ), sys.Along (fun _ _ => True) s is := by
    intro is
    induction is with
    | nil => intro s; trivial
    | cons i is ih => intro s; exact ⟨trivial, fun s' _ => ih s'⟩
  exact sys.run_preserves_along (fun s i s' hI _ => keeps s i s' hI) hs (halong is s) hrun

end System

end Navi.Base
