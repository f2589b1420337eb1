import Navi.Base.Dict
import Navi.Base.System

/-!
# Rows written back without a guard

A row that every operation reads in one transaction and writes in another, with no
version to compare. An operation asks for some columns, and writes others back as it
read them; what another operation did to those in between is lost. The columns and
the bindings of a dictionary column are given with the two laws that say what a write
makes of them, and everything else is proved from the laws.
-/

namespace Navi.Base

/-- The operations on a row: what one writes over the row it finds, from the row it
read, and what that makes of the columns and of the keys of the dictionary. -/
structure RowStore (ρ ι γ κ α : Type) (β : γ → Type) where
  /-- The row after the write of an operation. -/
  write : ι → (read found : ρ) → Time → ρ
  /-- The value of a column. -/
  column : ρ → (c : γ) → β c
  /-- The value that an operation asks for, where it asks for one. -/
  asked : ι → (c : γ) → Option (β c)
  /-- Whether it sets a column also where it does not ask for a value. -/
  writesBack : ι → γ → Bool
  /-- The value under a key. -/
  binding : ρ → κ → Option α
  /-- The value that an operation gives to a key, where it gives one. -/
  gives : ι → κ → Option α
  /-- Whether it sets the dictionary. -/
  merges : ι → Bool
  column_write : ∀ op read found now c, column (write op read found now) c
    = (asked op c).getD (if writesBack op c then column read c else column found c)
  binding_write : ∀ op read found now k, binding (write op read found now) k
    = if merges op then (gives op k).or (binding read k) else binding found k
  merges_of_gives : ∀ op k v, gives op k = some v → merges op = true

inductive RowCall (ρ ι : Type) where
  | idle
  | read (op : ι) (row : ρ)
  | returned (op : ι)

/-- A row, its callers, and (a history variable) the operations that have written,
the last one first. -/
structure RowState (ρ ι : Type) where
  row : ρ
  calls : Nat → RowCall ρ ι
  written : List ι

/-- A call reads the row, or writes it. -/
inductive RowLabel (ι : Type) where
  | read (call : Nat) (op : ι)
  | write (call : Nat) (now : Time)

def RowState.start {ρ ι : Type} (row : ρ) : RowState ρ ι := ⟨row, fun _ => .idle, []⟩

namespace RowStore

variable {ρ ι γ κ α : Type} {β : γ → Type} (store : RowStore ρ ι γ κ α β)

/-- Any number of operations, their reads and writes interleaved. -/
def system : System (RowState ρ ι) (RowLabel ι) where
  step s
    | .read call op =>
        match s.calls call with
        | .idle => some { s with calls := Function.update s.calls call (.read op s.row) }
        | _ => none
    | .write call now =>
        match s.calls call with
        | .read op row => some
            { row := store.write op row s.row now
              calls := Function.update s.calls call (.returned op)
              written := op :: s.written }
        | _ => none

/-- The last value asked for in a column. -/
def lastAsked : List ι → (c : γ) → Option (β c)
  | [], _ => none
  | op :: before, c => (store.asked op c).or (lastAsked before c)

/-- The value under the key is one that some writer gave. -/
def Holds (written : List ι) (row : ρ) (k : κ) : Prop :=
  ∃ op ∈ written, ∃ v, store.gives op k = some v ∧ store.binding row k = some v

/-- No write is lost: each column has the value last asked for, and every key that was
given has a value that one of its writers gave. -/
structure NothingLost (first : ρ) (s : RowState ρ ι) : Prop where
  columns : ∀ c, store.column s.row c = (store.lastAsked s.written c).getD (store.column first c)
  keys : ∀ op ∈ s.written, ∀ k v, store.gives op k = some v → store.Holds s.written s.row k

/-- A write finds the columns that it only writes back as it read them, and the row it
read holds every key given so far that it does not give itself. -/
def WritesBackTheSame (s : RowState ρ ι) : RowLabel ι → Prop
  | .write call _ =>
      match s.calls call with
      | .read op row =>
          (∀ c, store.asked op c = none → store.writesBack op c = true →
            store.column row c = store.column s.row c)
          ∧ (store.merges op = true → ∀ k, store.gives op k = none →
              ∀ earlier ∈ s.written, ∀ v, store.gives earlier k = some v →
                store.Holds s.written row k)
      | _ => True
  | .read _ _ => True

variable {store}

theorem column_write_keeps_iff {op : ι} {read found : ρ} {now : Time} {c : γ} :
    store.column (store.write op read found now) c
        = (store.asked op c).getD (store.column found c)
      ↔ (store.asked op c = none → store.writesBack op c = true →
          store.column read c = store.column found c) := by
  rw [store.column_write]
  cases hasked : store.asked op c with
  | some v => exact iff_of_true rfl fun habsent => absurd habsent (Option.some_ne_none v)
  | none =>
      rw [Option.getD_none, Option.getD_none]
      cases hback : store.writesBack op c with
      | true => simp
      | false => simp

/-- A key that an operation does not give is held after its write as it was in the row
it read, or, where it leaves the dictionary alone, in the row it found. -/
theorem holds_write_iff {op : ι} {written : List ι} {read found : ρ} {now : Time} {k : κ}
    (hgives : store.gives op k = none) :
    store.Holds (op :: written) (store.write op read found now) k
      ↔ store.Holds written (if store.merges op then read else found) k := by
  have hbinding : store.binding (store.write op read found now) k
      = store.binding (if store.merges op then read else found) k := by
    rw [store.binding_write, hgives, Option.none_or]
    split <;> rfl
  constructor
  · rintro ⟨giver, hgiver, v, hv, hrow⟩
    rcases List.mem_cons.mp hgiver with rfl | hgiver
    · rw [hgives] at hv
      cases hv
    · exact ⟨giver, hgiver, v, hv, hbinding ▸ hrow⟩
  · rintro ⟨giver, hgiver, v, hv, hrow⟩
    exact ⟨giver, List.mem_cons_of_mem _ hgiver, v, hv, hbinding.trans hrow⟩

theorem holds_write_of_gives {op : ι} {written : List ι} {read found : ρ} {now : Time} {k : κ}
    {v : α} (hgives : store.gives op k = some v) :
    store.Holds (op :: written) (store.write op read found now) k := by
  refine ⟨op, List.mem_cons_self, v, hgives, ?_⟩
  rw [store.binding_write, if_pos (store.merges_of_gives op k v hgives), hgives, Option.some_or]

theorem write_nothingLost_iff {first : ρ} {s : RowState ρ ι} (hs : store.NothingLost first s)
    {call : Nat} {op : ι} {row : ρ} (now : Time) (hcall : s.calls call = .read op row) :
    store.NothingLost first
        { row := store.write op row s.row now
          calls := Function.update s.calls call (.returned op)
          written := op :: s.written }
      ↔ store.WritesBackTheSame s (.write call now) := by
  have hcond : store.WritesBackTheSame s (.write call now)
      ↔ (∀ c, store.asked op c = none → store.writesBack op c = true →
            store.column row c = store.column s.row c)
          ∧ (store.merges op = true → ∀ k, store.gives op k = none →
              ∀ earlier ∈ s.written, ∀ v, store.gives earlier k = some v →
                store.Holds s.written row k) := by
    rw [WritesBackTheSame, hcall]
  -- the last value asked for is the one asked for now, or else the one in the row
  have hlast : ∀ c, (store.lastAsked (op :: s.written) c).getD (store.column first c)
      = (store.asked op c).getD (store.column s.row c) := by
    intro c
    rw [hs.columns c, lastAsked]
    cases store.asked op c <;> rfl
  rw [hcond]
  constructor
  · intro hafter
    refine ⟨fun c => column_write_keeps_iff.mp ((hafter.columns c).trans (hlast c)), ?_⟩
    intro hmerges k hgives earlier hearlier v hv
    have hheld := (holds_write_iff hgives).mp
      (hafter.keys earlier (List.mem_cons_of_mem _ hearlier) k v hv)
    rwa [if_pos hmerges] at hheld
  · rintro ⟨hcolumns, hkeys⟩
    refine ⟨fun c => (column_write_keeps_iff.mpr (hcolumns c)).trans (hlast c).symm, ?_⟩
    intro giver hgiver k v hv
    cases hgives : store.gives op k with
    | some given => exact holds_write_of_gives hgives
    | none =>
        have hearlier : giver ∈ s.written := by
          rcases List.mem_cons.mp hgiver with rfl | hearlier
          · rw [hgives] at hv
            cases hv
          · exact hearlier
        refine (holds_write_iff hgives).mpr ?_
        split
        next hmerges => exact hkeys hmerges k hgives giver hearlier v hv
        next => exact hs.keys giver hearlier k v hv

/-- In every run of operations on a row, nothing is lost in any state, if and only if
every write writes back only what it finds. -/
theorem nothing_lost_iff (store : RowStore ρ ι γ κ α β) (first : ρ) (labels : List (RowLabel ι)) :
    (∀ n s, store.system.run (.start first) (labels.take n) = some s → store.NothingLost first s)
      ↔ store.system.Along store.WritesBackTheSame (.start first) labels := by
  have hstart : store.NothingLost first (.start first) := by
    refine ⟨fun c => rfl, ?_⟩
    intro op hop
    cases hop
  refine store.system.run_good_iff (fun _ _ _ _ _ => trivial) ?_ ?_ trivial hstart labels
  · intro s label s' _ hs h
    cases label with
    | read call op =>
        simp only [system] at h
        split at h
        · obtain rfl := Option.some.inj h
          exact iff_of_true ⟨hs.columns, hs.keys⟩ trivial
        · cases h
    | write call now =>
        simp only [system] at h
        split at h
        next op row hcall =>
          obtain rfl := Option.some.inj h
          exact write_nothingLost_iff hs now hcall
        · cases h
  · intro s label hfails
    cases label with
    | read call op => exact absurd trivial hfails
    | write call now =>
        cases hcall : s.calls call with
        | read op row => exact ⟨_, by simp only [system, hcall]; rfl⟩
        | _ => exact absurd (by simp [WritesBackTheSame, hcall]) hfails

end RowStore

end Navi.Base
