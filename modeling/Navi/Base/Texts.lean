import Mathlib

/-!
# Texts

What is joined, and what is dropped from the end of a text.
-/

namespace Navi.Base

variable {α : Type*}

theorem mem_of_mem_intercalate {x c : α} {parts : List (List α)}
    (h : c ∈ [x].intercalate parts) : c = x ∨ ∃ part ∈ parts, c ∈ part := by
  induction parts with
  | nil => cases h
  | cons part rest ih =>
      cases rest with
      | nil => exact .inr ⟨part, List.mem_cons_self, by simpa using h⟩
      | cons next later =>
          rw [List.intercalate_cons_cons, List.mem_append, List.mem_append] at h
          rcases h with (hpart | hx) | hrest
          · exact .inr ⟨part, List.mem_cons_self, hpart⟩
          · exact .inl (List.mem_singleton.mp hx)
          · rcases ih hrest with hx | ⟨found, hfound, hc⟩
            · exact .inl hx
            · exact .inr ⟨found, List.mem_cons_of_mem _ hfound, hc⟩

theorem rdropWhile_append {p : α → Bool} {text ending : List α} (htext : ∀ c ∈ text, p c = false)
    (hending : ∀ c ∈ ending, p c = true) : (text ++ ending).rdropWhile p = text := by
  have hkept : text.reverse.dropWhile p = text.reverse := by
    refine List.dropWhile_eq_self_iff.mpr fun hlen => ?_
    have hmem := List.mem_reverse.mp (List.getElem_mem hlen)
    rw [htext _ hmem]
    exact Bool.false_ne_true
  rw [List.rdropWhile, List.reverse_append,
    List.dropWhile_append_of_pos fun c hc => hending c (List.mem_reverse.mp hc), hkept,
    List.reverse_reverse]

end Navi.Base
