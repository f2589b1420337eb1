import Mathlib.Logic.Relation

/-!
# Systems that keep a log

The log is a list of events, newest first. A law of the log says of each event
what it must be like given the events before it. An invariant that a step keeps
as long as the log obeys a law is kept by every path whose last log obeys it.
-/

namespace Navi.Base

variable {σ ε : Type}

/-- Every event of a log is as `P` says, given the events before it. -/
def Throughout (P : List ε → ε → Prop) : List ε → Prop
  | [] => True
  | event :: earlier => P earlier event ∧ Throughout P earlier

namespace Throughout

variable {P Q : List ε → ε → Prop} {event : ε} {log log' : List ε}

@[simp] theorem nil : Throughout P [] := trivial

@[simp] theorem cons : Throughout P (event :: log) ↔ P log event ∧ Throughout P log := Iff.rfl

instance decidable [∀ earlier event, Decidable (P earlier event)] :
    (log : List ε) → Decidable (Throughout P log)
  | [] => inferInstanceAs (Decidable True)
  | event :: earlier =>
      have : Decidable (Throughout P earlier) := decidable earlier
      inferInstanceAs (Decidable (P earlier event ∧ Throughout P earlier))

theorem of_suffix (h : Throughout P log') (hsuffix : log <:+ log') : Throughout P log := by
  induction log' with
  | nil =>
      obtain rfl := List.suffix_nil.mp hsuffix
      trivial
  | cons event earlier ih =>
      rcases List.suffix_cons_iff.mp hsuffix with rfl | hsuffix
      · exact h
      · exact ih h.2 hsuffix

theorem imp (himp : ∀ earlier event, P earlier event → Q earlier event)
    (h : Throughout P log) : Throughout Q log := by
  induction log with
  | nil => trivial
  | cons event earlier ih => exact ⟨himp earlier event h.1, ih h.2⟩

theorem and (hP : Throughout P log) (hQ : Throughout Q log) :
    Throughout (fun earlier event => P earlier event ∧ Q earlier event) log := by
  induction log with
  | nil => trivial
  | cons event earlier ih => exact ⟨⟨hP.1, hQ.1⟩, ih hP.2 hQ.2⟩

/-- What every step keeps while the log obeys a law, every path keeps whose last
log obeys it. -/
theorem invariant {step : σ → σ → Prop} {log : σ → List ε} {I : σ → Prop}
    (grows : ∀ s s', step s s' → log s <:+ log s')
    (keeps : ∀ s s', step s s' → I s → Throughout P (log s') → I s')
    {s s' : σ} (hpath : Relation.ReflTransGen step s s') (hs : I s)
    (hlaw : Throughout P (log s')) : I s' := by
  induction hpath with
  | refl => exact hs
  | tail _ hstep ih =>
      have hbefore := ih (hlaw.of_suffix (grows _ _ hstep))
      exact keeps _ _ hstep hbefore hlaw

end Throughout

end Navi.Base
