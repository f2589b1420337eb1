import Mathlib
import Navi.Base.System

/-!
# Programs over a shared store

A program is a tree of statements, each with a continuation for every answer. Programs enter a
pool, and in every step one of them executes its next statement, so that a run of the pool is an
interleaving of the programs at their statements. A program that is not stepped again has died.

A law of statements that every program obeys, whatever it is answered, holds of every statement
of every run.
-/

namespace Navi.Base

/-- The statements of a store, what they are answered and what they do. -/
structure Statements (σ : Type) where
  Statement : Type
  Answer : Statement → Type
  /-- The store after a statement, and its answer. -/
  exec : (statement : Statement) → σ → σ × Answer statement

inductive Program {σ : Type} (S : Statements σ) where
  /-- The program has returned or raised. -/
  | done
  /-- A statement, and the program after each answer. -/
  | call (statement : S.Statement) (next : S.Answer statement → Program S)

/-- The store, and the programs that have entered. -/
structure Pool {σ : Type} (S : Statements σ) where
  shared : σ
  programs : List (Program S)

inductive PoolLabel (ι : Type) where
  | enter (call : ι)
  | step (index : Nat)

variable {σ ι : Type} {S : Statements σ}

/-- The store after a program that runs by itself. -/
def Program.run : Program S → σ → σ
  | .done, s => s
  | .call statement next, s => (next (S.exec statement s).2).run (S.exec statement s).1

/-- Every statement of the program is as the law says. -/
def Program.All (law : S.Statement → Prop) : Program S → Prop
  | .done => True
  | .call statement next => law statement ∧ ∀ answer, (next answer).All law

/-- The statement that a label executes. -/
def Pool.statement (s : Pool S) : PoolLabel ι → Option S.Statement
  | .enter _ => none
  | .step index =>
      match s.programs[index]? with
      | some (.call statement _) => some statement
      | _ => none

/-- The pool of the programs of some calls. -/
def pool (S : Statements σ) (program : ι → Program S) : System (Pool S) (PoolLabel ι) where
  step s
    | .enter call => some { s with programs := s.programs ++ [program call] }
    | .step index =>
        match s.programs[index]? with
        | some (.call statement next) =>
            let done := S.exec statement s.shared
            some ⟨done.1, s.programs.set index (next done.2)⟩
        | _ => none

/-- Every statement of a run is such, in the store before it. -/
def Pool.Along (program : ι → Program S) (P : σ → S.Statement → Prop) (s : Pool S)
    (labels : List (PoolLabel ι)) : Prop :=
  (pool S program).Along (fun s label => ∀ statement ∈ s.statement label, P s.shared statement) s
    labels

instance Pool.decidableAlong {program : ι → Program S} {P : σ → S.Statement → Prop}
    [∀ s statement, Decidable (P s statement)] (s : Pool S) (labels : List (PoolLabel ι)) :
    Decidable (s.Along program P labels) :=
  inferInstanceAs (Decidable ((pool S program).Along
    (fun s label => ∀ statement ∈ s.statement label, P s.shared statement) s labels))

section

variable {program : ι → Program S} {law : S.Statement → Prop} {s s' : Pool S}

theorem pool_keeps_law (hlaw : ∀ call, (program call).All law) {label : PoolLabel ι}
    (h : ∀ p ∈ s.programs, p.All law) (hstep : (pool S program).step s label = some s') :
    ∀ p ∈ s'.programs, p.All law := by
  intro p hp
  cases label with
  | enter call =>
      obtain rfl := Option.some.inj hstep
      rcases List.mem_append.mp hp with hold | hnew
      · exact h p hold
      · obtain rfl := List.mem_singleton.mp hnew
        exact hlaw call
  | step index =>
      simp only [pool] at hstep
      split at hstep
      next statement next hprogram =>
        obtain rfl := Option.some.inj hstep
        rcases List.mem_or_eq_of_mem_set hp with hold | rfl
        · exact h p hold
        · exact (h _ (List.mem_of_getElem? hprogram)).2 _
      next => cases hstep

theorem law_of_statement (h : ∀ p ∈ s.programs, p.All law) {label : PoolLabel ι}
    {statement : S.Statement} (hstatement : statement ∈ s.statement label) : law statement := by
  cases label with
  | enter call => cases hstatement
  | step index =>
      simp only [Pool.statement] at hstatement
      split at hstatement
      next next hprogram =>
        obtain rfl := Option.some.inj hstatement
        exact (h _ (List.mem_of_getElem? hprogram)).1
      next => cases hstatement

/-- What holds of a statement of the law exactly where something else does, holds along a run
exactly where that does. -/
theorem Pool.along_congr {P Q : σ → S.Statement → Prop} (hlaw : ∀ call, (program call).All law)
    (hiff : ∀ shared statement, law statement → (P shared statement ↔ Q shared statement))
    (shared : σ) (labels : List (PoolLabel ι)) :
    Pool.Along program P ⟨shared, []⟩ labels ↔ Pool.Along program Q ⟨shared, []⟩ labels := by
  have hempty : ∀ p ∈ (⟨shared, []⟩ : Pool S).programs, p.All law := by simp
  constructor
  · refine (pool S program).along_of_invariant
      (fun s label s' h _ hstep => pool_keeps_law hlaw h hstep)
      (fun s label h hP statement hstatement => ?_) hempty
    exact (hiff _ _ (law_of_statement h hstatement)).mp (hP statement hstatement)
  · refine (pool S program).along_of_invariant
      (fun s label s' h _ hstep => pool_keeps_law hlaw h hstep)
      (fun s label h hQ statement hstatement => ?_) hempty
    exact (hiff _ _ (law_of_statement h hstatement)).mpr (hQ statement hstatement)

end

end Navi.Base
