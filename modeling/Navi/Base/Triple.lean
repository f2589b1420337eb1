import Mathlib

/-!
# Triples for programs that may stop early

`EStateM ε σ` runs a program on a state and keeps the state when the program
stops with an `ε`, so it models code that raises and code that dies half way
alike. A triple bounds the state in both endings. The rules follow the program's
syntax; `Triple.weaken` is the rule of consequence.
-/

namespace Navi.Base

variable {σ ε α β : Type}

/-- From a state that meets `pre`, `program` ends with a value and a state that
meet `post`, or stops with an error and a state that meet `stop`. -/
def Triple (pre : σ → Prop) (program : EStateM ε σ α) (post : α → σ → Prop)
    (stop : ε → σ → Prop) : Prop :=
  ∀ s, pre s → match program s with
    | .ok a s' => post a s'
    | .error e s' => stop e s'

namespace Triple

variable {pre pre' : σ → Prop} {post post' : α → σ → Prop} {stop stop' : ε → σ → Prop}

theorem pure {a : α} (h : ∀ s, pre s → post a s) :
    Triple pre (Pure.pure a : EStateM ε σ α) post stop := h

theorem throw {e : ε} (h : ∀ s, pre s → stop e s) :
    Triple pre (MonadExcept.throw e : EStateM ε σ α) post stop := h

theorem weaken {program : EStateM ε σ α} (h : Triple pre' program post' stop')
    (hpre : ∀ s, pre s → pre' s) (hpost : ∀ a s, post' a s → post a s)
    (hstop : ∀ e s, stop' e s → stop e s) : Triple pre program post stop := by
  intro s hs
  have hrun := h s (hpre s hs)
  cases hend : program s with
  | ok a s' =>
      rw [hend] at hrun
      exact hpost a s' hrun
  | error e s' =>
      rw [hend] at hrun
      exact hstop e s' hrun

theorem of_each {program : EStateM ε σ α}
    (h : ∀ s, pre s → Triple (fun s' => s' = s) program post stop) : Triple pre program post stop :=
  fun s hs => h s hs s rfl

theorem and {program : EStateM ε σ α} (h : Triple pre program post stop)
    (h' : Triple pre program post' stop') :
    Triple pre program (fun a s => post a s ∧ post' a s) (fun e s => stop e s ∧ stop' e s) := by
  intro s hs
  have hrun := h s hs
  have hrun' := h' s hs
  cases hend : program s with
  | ok a s' =>
      rw [hend] at hrun hrun'
      exact ⟨hrun, hrun'⟩
  | error e s' =>
      rw [hend] at hrun hrun'
      exact ⟨hrun, hrun'⟩

theorem assume {program : EStateM ε σ α} {φ : Prop} (hφ : ∀ s, pre s → φ)
    (h : φ → Triple pre program post stop) : Triple pre program post stop :=
  fun s hs => h (hφ s hs) s hs

theorem bind {middle : α → σ → Prop} {program : EStateM ε σ α} {rest : α → EStateM ε σ β}
    {post : β → σ → Prop} (h : Triple pre program middle stop)
    (hrest : ∀ a, Triple (middle a) (rest a) post stop) :
    Triple pre (program >>= rest) post stop := by
  intro s hs
  have hrun := h s hs
  simp only [Bind.bind, EStateM.bind]
  cases hend : program s with
  | ok a s' =>
      rw [hend] at hrun
      exact hrest a s' hrun
  | error e s' =>
      rw [hend] at hrun
      exact hrun

theorem map {middle : α → σ → Prop} {program : EStateM ε σ α} {f : α → β}
    {post : β → σ → Prop} (h : Triple pre program middle stop)
    (hpost : ∀ a s, middle a s → post (f a) s) : Triple pre (f <$> program) post stop :=
  bind h fun a => pure fun s hs => hpost a s hs

theorem tryCatch {middle : ε → σ → Prop} {program : EStateM ε σ α} {handler : ε → EStateM ε σ α}
    (h : Triple pre program post middle) (hhandler : ∀ e, Triple (middle e) (handler e) post stop) :
    Triple pre (MonadExcept.tryCatch program handler) post stop := by
  intro s hs
  have hrun := h s hs
  simp only [MonadExcept.tryCatch, tryCatchThe, MonadExceptOf.tryCatch, EStateM.tryCatch,
    EStateM.Backtrackable.save, EStateM.Backtrackable.restore]
  cases hend : program s with
  | ok a s' =>
      rw [hend] at hrun
      exact hrun
  | error e s' =>
      rw [hend] at hrun
      exact hhandler e s' hrun

theorem get {post : σ → σ → Prop} (h : ∀ s, pre s → post s s) :
    Triple pre (MonadState.get : EStateM ε σ σ) post stop := h

theorem get_self : Triple pre (MonadState.get : EStateM ε σ σ) (fun found s => found = s ∧ pre s)
    stop :=
  fun _ hs => ⟨rfl, hs⟩

theorem get_bind {known : σ → Prop} {rest : σ → EStateM ε σ α}
    (hknown : ∀ s, pre s → known s)
    (hrest : ∀ found, known found →
      Triple (fun s => found = s ∧ pre s) (rest found) post stop) :
    Triple pre (MonadState.get >>= rest) post stop := by
  refine bind get_self ?_
  intro found
  refine assume (fun s hs => ?_) (hrest found)
  obtain ⟨rfl, hs⟩ := hs
  exact hknown found hs

theorem set {s' : σ} {post : PUnit → σ → Prop} (h : ∀ s, pre s → post ⟨⟩ s') :
    Triple pre (MonadStateOf.set s' : EStateM ε σ PUnit) post stop := h

theorem modify {f : σ → σ} {post : Unit → σ → Prop} (h : ∀ s, pre s → post () (f s)) :
    Triple pre (MonadState.modifyGet fun s => ((), f s) : EStateM ε σ Unit) post stop := h

end Triple

end Navi.Base
