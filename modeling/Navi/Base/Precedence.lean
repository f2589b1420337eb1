import Mathlib

/-!
# One of each name, the first that passes

Things are listed in the order of their precedence, and of those with one name the first that
passes a filter is kept. A stricter filter may then keep a later one under a name that a laxer one
gives to an earlier one; where it does not, what it keeps is a sublist.
-/

namespace Navi.Base

universe u v

section

variable {α : Type u} {κ : Type v} [DecidableEq κ]

/-- Those that pass and have the name of no earlier one that does, or of one that is `seen`. -/
def firstNamed (name : α → κ) (p : α → Bool) : List κ → List α → List α
  | _, [] => []
  | seen, a :: rest =>
      if name a ∉ seen ∧ p a then a :: firstNamed name p (name a :: seen) rest
      else firstNamed name p seen rest

def named (name : α → κ) (p : α → Bool) (k : κ) (l : List α) : Option α :=
  l.find? fun a => p a ∧ name a = k

variable {name : α → κ} {p q : α → Bool} {seen : List κ} {l rest : List α} {a b first : α} {k : κ}

theorem named_cons_of_not (h : ¬ (p a ∧ name a = k)) :
    named name p k (a :: rest) = named name p k rest :=
  List.find?_cons_of_neg (by simpa using h)

theorem named_cons_self (h : p a) : named name p (name a) (a :: rest) = some a :=
  List.find?_cons_of_pos (by simpa using h)

theorem of_named (h : named name p k l = some first) : first ∈ l ∧ p first ∧ name first = k :=
  ⟨List.mem_of_find?_eq_some h, by simpa using List.find?_some h⟩

theorem exists_named (hb : b ∈ l) (hp : p b) : ∃ first, named name p (name b) l = some first :=
  Option.isSome_iff_exists.mp (List.find?_isSome.mpr ⟨b, hb, by simpa using hp⟩)

theorem mem_firstNamed :
    a ∈ firstNamed name p seen l ↔ name a ∉ seen ∧ named name p (name a) l = some a := by
  induction l generalizing seen with
  | nil => simp [firstNamed, named]
  | cons b rest ih =>
      rw [firstNamed]
      by_cases hkept : name b ∉ seen ∧ p b
      · rw [if_pos hkept, List.mem_cons, ih]
        by_cases hsame : name b = name a
        · have hfirst : named name p (name a) (b :: rest) = some b := by
            rw [← hsame]
            exact named_cons_self hkept.2
          rw [hfirst, ← hsame]
          simp [hkept.1, eq_comm]
        · have hne : a ≠ b := fun h => hsame (by rw [h])
          rw [named_cons_of_not fun h => hsame h.2]
          simp [hne, Ne.symm hsame]
      · rw [if_neg hkept, ih]
        by_cases hsame : name b = name a ∧ p b
        · -- one that passes and is not kept has a name that is seen
          have hseen : name a ∈ seen := by
            rw [← hsame.1]
            by_contra hnot
            exact hkept ⟨hnot, hsame.2⟩
          simp [hseen]
        · rw [named_cons_of_not fun h => hsame ⟨h.2, h.1⟩]

theorem eq_of_mem_firstNamed (ha : a ∈ firstNamed name p seen l)
    (hb : b ∈ firstNamed name p seen l) (hname : name a = name b) : a = b := by
  have hfirst := (mem_firstNamed.mp ha).2
  rw [hname, (mem_firstNamed.mp hb).2] at hfirst
  exact (Option.some.inj hfirst).symm

/-- Wherever the stricter filter passes one of a name, it passes the first of that name that the
laxer one does. -/
def Yields (name : α → κ) (p q : α → Bool) (l : List α) : Prop :=
  ∀ b ∈ l, p b → ∀ first, named name q (name b) l = some first → p first

theorem firstNamed_sublist_of_yields {seen seen' : List κ} (hpq : ∀ a, p a → q a)
    (hseen : seen ⊆ seen') (hfree : ∀ b ∈ l, p b → name b ∈ seen' → name b ∈ seen)
    (hyields : ∀ b ∈ l, p b → name b ∉ seen' → ∀ first, named name q (name b) l = some first →
      p first) :
    (firstNamed name p seen l).Sublist (firstNamed name q seen' l) := by
  induction l generalizing seen seen' with
  | nil => exact List.Sublist.slnil
  | cons a rest ih =>
      have hrest : ∀ b ∈ rest, p b → name b ≠ name a ∨ ¬ q a → name b ∉ seen' →
          ∀ first, named name q (name b) rest = some first → p first := by
        intro b hb hp hother hnot first hfirst
        refine hyields b (List.mem_cons_of_mem a hb) hp hnot first ?_
        rw [named_cons_of_not]
        · exact hfirst
        · rintro ⟨hq, hname⟩
          exact hother.elim (fun h => h hname.symm) fun h => h hq
      have hlater : ∀ b ∈ rest, p b → name b ∈ seen' → name b ∈ seen :=
        fun b hb => hfree b (List.mem_cons_of_mem a hb)
      rw [firstNamed, firstNamed]
      by_cases hnew : name a ∉ seen'
      · have hnew' : name a ∉ seen := fun h => hnew (hseen h)
        by_cases hp : p a
        · -- both keep it
          rw [if_pos ⟨hnew', hp⟩, if_pos ⟨hnew, hpq a hp⟩]
          refine List.Sublist.cons_cons a (ih (List.cons_subset_cons _ hseen) ?_ ?_)
          · intro b hb hpb hmem
            rcases List.mem_cons.mp hmem with hname | hmem
            · rw [hname]
              exact List.mem_cons_self
            · exact List.mem_cons_of_mem _ (hlater b hb hpb hmem)
          · intro b hb hpb hnot
            rw [List.mem_cons, not_or] at hnot
            exact hrest b hb hpb (.inl hnot.1) hnot.2
        · rw [if_neg fun h => hp h.2]
          by_cases hq : q a
          · -- the laxer filter keeps it, and no later one of this name passes the stricter
            rw [if_pos ⟨hnew, hq⟩]
            refine List.Sublist.cons a (ih (fun k hk => List.mem_cons_of_mem _ (hseen hk)) ?_ ?_)
            · intro b hb hpb hmem
              rcases List.mem_cons.mp hmem with hname | hmem
              · refine absurd (hyields b (List.mem_cons_of_mem a hb) hpb ?_ a ?_) hp
                · rw [hname]
                  exact hnew
                · rw [hname]
                  exact named_cons_self hq
              · exact hlater b hb hpb hmem
            · intro b hb hpb hnot
              rw [List.mem_cons, not_or] at hnot
              exact hrest b hb hpb (.inl hnot.1) hnot.2
          · rw [if_neg fun h => hq h.2]
            exact ih hseen hlater fun b hb hpb => hrest b hb hpb (.inr hq)
      · have hnot : ¬ (name a ∉ seen' ∧ q a) := fun h => hnew h.1
        have hskip : ¬ (name a ∉ seen ∧ p a) := by
          rintro ⟨hfresh, hp⟩
          exact hfresh (hfree a List.mem_cons_self hp (not_not.mp hnew))
        rw [if_neg hskip, if_neg hnot]
        refine ih hseen hlater fun b hb hpb hfresh => hrest b hb hpb (.inl ?_) hfresh
        rintro hname
        exact hnew (by rw [← hname]; exact hfresh)

theorem firstNamed_sublist_iff (hpq : ∀ a, p a → q a) :
    (firstNamed name p [] l).Sublist (firstNamed name q [] l) ↔ Yields name p q l := by
  constructor
  · intro hsub b hb hp first hfirst
    obtain ⟨c, hc⟩ := @exists_named _ _ _ name _ _ _ hb hp
    obtain ⟨-, hpc, hname⟩ := of_named hc
    obtain ⟨-, -, hfirstName⟩ := of_named hfirst
    have hcKept : c ∈ firstNamed name p [] l :=
      mem_firstNamed.mpr ⟨List.not_mem_nil, by rw [hname]; exact hc⟩
    have hfirstKept : first ∈ firstNamed name q [] l :=
      mem_firstNamed.mpr ⟨List.not_mem_nil, by rw [hfirstName]; exact hfirst⟩
    have hone := eq_of_mem_firstNamed (hsub.subset hcKept) hfirstKept
      (hname.trans hfirstName.symm)
    rwa [← hone]
  · intro hyields
    exact firstNamed_sublist_of_yields hpq (List.Subset.refl _)
      (fun b _ _ hmem => absurd hmem List.not_mem_nil) fun b hb hp _ => hyields b hb hp

end

end Navi.Base
