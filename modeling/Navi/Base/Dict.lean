import Mathlib.Data.Rat.Defs
import Mathlib.Data.List.Basic
import Mathlib.Data.List.DropRight

/-!
# JSON values and string-keyed dictionaries

The durable records of the modelled program are JSON objects: read with
`get`, overlaid with `{**a, **b}`, and never compared as text. A dictionary is
an association list whose first binding of a key counts, so that overlaying is
a list operation and every lemma about it is a lemma about lookups.
-/

namespace Navi.Base

/-- A JSON value as `json.loads` returns it. Floats are finite and stand for
their exact rational value. -/
inductive Json where
  | null
  | bool (b : Bool)
  | int (n : Int)
  | float (x : Rat)
  | str (s : String)
  | arr (items : List Json)
  | obj (entries : List (String × Json))

instance : Inhabited Json := ⟨.null⟩

/-- A clock reading or a duration in seconds. -/
abbrev Time := Rat

/-- A string-keyed dictionary; the first binding of a key is the live one. -/
abbrev Dict := List (String × Json)

namespace Dict

/-- `d.get(key)`, with `none` for an absent key. -/
def get : Dict → String → Option Json
  | [], _ => none
  | (k, v) :: rest, key => if k = key then some v else get rest key

/-- `{**base, **over}`. -/
def merge (base overlay : Dict) : Dict := overlay ++ base.filter fun e => (get overlay e.1).isNone

/-- `d.pop(key, None)`. -/
def pop (d : Dict) (key : String) : Dict := d.filter fun e => e.1 ≠ key

/-- `d[key] = value`. -/
def put (d : Dict) (key : String) (value : Json) : Dict := (key, value) :: pop d key

@[simp] theorem get_nil (key : String) : get [] key = none := rfl

@[simp] theorem get_cons (k : String) (v : Json) (rest : Dict) (key : String) :
    get ((k, v) :: rest) key = if k = key then some v else get rest key := rfl

@[simp] theorem get_append (d e : Dict) (key : String) :
    get (d ++ e) key = (get d key).or (get e key) := by
  induction d with
  | nil => simp
  | cons entry rest ih =>
      obtain ⟨k, v⟩ := entry
      simp only [List.cons_append, get_cons, ih]
      by_cases hk : k = key <;> simp [hk]

theorem get_filter_key (d : Dict) (keep : String → Bool) (key : String) :
    get (d.filter fun e => keep e.1) key = if keep key then get d key else none := by
  induction d with
  | nil => simp
  | cons entry rest ih =>
      obtain ⟨k, v⟩ := entry
      by_cases hkeep : keep k = true
      · simp only [List.filter_cons, hkeep, if_true, get_cons, ih]
        by_cases hk : k = key
        · subst hk
          simp [hkeep]
        · simp [hk]
      · have hdrop : keep k = false := by simpa using hkeep
        rw [List.filter_cons_of_neg (by simpa using hdrop), ih, get_cons]
        by_cases hk : k = key
        · subst hk
          simp [hdrop]
        · simp [hk]

@[simp] theorem get_merge (base overlay : Dict) (key : String) :
    get (merge base overlay) key = (get overlay key).or (get base key) := by
  rw [merge, get_append, get_filter_key base (fun k => (get overlay k).isNone) key]
  cases get overlay key <;> simp

@[simp] theorem get_pop (d : Dict) (dropped key : String) :
    get (pop d dropped) key = if dropped = key then none else get d key := by
  rw [pop, get_filter_key d (fun k => decide (k ≠ dropped)) key]
  by_cases h : dropped = key
  · simp [h]
  · simp [h, Ne.symm h]

@[simp] theorem get_put (d : Dict) (k : String) (v : Json) (key : String) :
    get (put d k v) key = if k = key then some v else get d key := by
  rw [put, get_cons, get_pop]
  by_cases h : k = key <;> simp [h]

theorem get_merge_of_none {base overlay : Dict} {key : String} (h : get overlay key = none) :
    get (merge base overlay) key = get base key := by
  simp [h]

theorem get_merge_of_some {base overlay : Dict} {key : String} {v : Json}
    (h : get overlay key = some v) : get (merge base overlay) key = some v := by
  simp [h]

end Dict

namespace Json

def truthy : Json → Bool
  | null => false
  | bool b => b
  | int n => n ≠ 0
  | float x => x ≠ 0
  | str s => s ≠ ""
  | arr items => !items.isEmpty
  | obj entries => !entries.isEmpty

/-- `value if isinstance(value, dict) else None`. -/
def asDict : Json → Option Dict
  | obj entries => some entries
  | _ => none

/-- `str(value)`. No field that is read as text is ever written as a float or a
container, and their printed form is left out. -/
def text : Json → String
  | null => "None"
  | bool true => "True"
  | bool false => "False"
  | int n => toString n
  | str s => s
  | _ => ""

def items : Json → List Json
  | arr xs => xs
  | _ => []

@[simp] theorem asDict_obj (d : Dict) : asDict (obj d) = some d := rfl
@[simp] theorem text_str (s : String) : text (str s) = s := rfl
@[simp] theorem items_arr (xs : List Json) : items (arr xs) = xs := rfl

theorem asDict_eq_some {j : Json} {d : Dict} : asDict j = some d ↔ j = obj d := by
  cases j <;> simp [asDict]

end Json

namespace Dict

/-- `str(d.get(key) or "")`. -/
def text (d : Dict) (key : String) : String :=
  match get d key with
  | some v => if v.truthy then v.text else ""
  | none => ""

/-- `d.get(key)` when it is a dictionary. -/
def sub (d : Dict) (key : String) : Option Dict := (get d key).bind Json.asDict

/-- `bool(d.get(key))`. -/
def flag (d : Dict) (key : String) : Bool := ((get d key).map Json.truthy).getD false

theorem text_of_get {d : Dict} {key s : String} (h : get d key = some (.str s)) :
    text d key = s := by
  by_cases hs : s = "" <;> simp [text, h, Json.truthy, hs]

theorem sub_of_get {d e : Dict} {key : String} (h : get d key = some (.obj e)) :
    sub d key = some e := by
  simp [sub, h]

theorem text_congr {d e : Dict} {key : String} (h : get d key = get e key) :
    text d key = text e key := by
  simp [text, h]

theorem sub_congr {d e : Dict} {key : String} (h : get d key = get e key) :
    sub d key = sub e key := by
  simp [sub, h]

end Dict

/-! ## Equality -/

namespace Json

mutual

def same : Json → Json → Bool
  | null, null => true
  | bool a, bool b => a = b
  | int m, int n => m = n
  | float x, float y => x = y
  | str s, str t => s = t
  | arr xs, arr ys => sameItems xs ys
  | obj d, obj e => sameEntries d e
  | _, _ => false

/-- Equality of lists of values, computed. -/
def sameItems : List Json → List Json → Bool
  | [], [] => true
  | x :: xs, y :: ys => same x y && sameItems xs ys
  | _, _ => false

/-- Equality of lists of entries, computed. -/
def sameEntries : List (String × Json) → List (String × Json) → Bool
  | [], [] => true
  | (k, v) :: d, (l, w) :: e => k = l && same v w && sameEntries d e
  | _, _ => false

end

mutual

theorem same_iff (a b : Json) : same a b = true ↔ a = b := by
  cases a with
  | arr xs => cases b <;> simp [same, sameItems_iff xs]
  | obj d => cases b <;> simp [same, sameEntries_iff d]
  | _ => cases b <;> simp [same]

theorem sameItems_iff (xs ys : List Json) : sameItems xs ys = true ↔ xs = ys := by
  cases xs with
  | nil => cases ys <;> simp [sameItems]
  | cons x xs =>
      cases ys with
      | nil => simp [sameItems]
      | cons y ys => simp [sameItems, same_iff x y, sameItems_iff xs ys]

theorem sameEntries_iff (d e : List (String × Json)) : sameEntries d e = true ↔ d = e := by
  cases d with
  | nil => cases e <;> simp [sameEntries]
  | cons entry d =>
      obtain ⟨k, v⟩ := entry
      cases e with
      | nil => simp [sameEntries]
      | cons entry e =>
          obtain ⟨l, w⟩ := entry
          simp [sameEntries, same_iff v w, sameEntries_iff d e]

end

instance instDecidableEq : DecidableEq Json := fun a b => decidable_of_iff _ (same_iff a b)

end Json

/-! ## Text -/

/-- The characters `str.strip()` removes: those with `str.isspace()`. -/
def isSpace (c : Char) : Bool :=
  let n := c.toNat
  (0x09 ≤ n && n ≤ 0x0D) || (0x1C ≤ n && n ≤ 0x20) || n == 0x85 || n == 0xA0 || n == 0x1680 ||
    (0x2000 ≤ n && n ≤ 0x200A) || n == 0x2028 || n == 0x2029 || n == 0x202F || n == 0x205F ||
    n == 0x3000

/-- `s.strip()`. -/
def strip (s : String) : String :=
  String.ofList ((s.toList.dropWhile isSpace).reverse.dropWhile isSpace).reverse

theorem strip_eq_self {cs : List Char} (h : ∀ c ∈ cs, isSpace c = false) :
    strip (String.ofList cs) = String.ofList cs := by
  have hkept : ∀ {text : List Char}, (∀ c ∈ text, isSpace c = false) →
      text.dropWhile isSpace = text := by
    intro text htext
    refine List.dropWhile_eq_self_iff.mpr fun hlen => ?_
    rw [htext _ (List.getElem_mem hlen)]
    exact Bool.false_ne_true
  have hback := hkept fun c hc => h c (List.mem_reverse.mp hc)
  rw [strip, String.toList_ofList, hkept h, hback, List.reverse_reverse]

/-- What is left after dropping from the left and then from the right starts with
what the left already kept. -/
theorem dropWhile_rdropWhile {α : Type*} (p : α → Bool) (l : List α) :
    ((l.dropWhile p).rdropWhile p).dropWhile p = (l.dropWhile p).rdropWhile p := by
  rw [List.dropWhile_eq_self_iff]
  intro hlen
  have hpre := List.rdropWhile_prefix p (l := l.dropWhile p)
  have hlen' : 0 < (l.dropWhile p).length := lt_of_lt_of_le hlen hpre.length_le
  have hhead : ((l.dropWhile p).rdropWhile p)[0] = (l.dropWhile p)[0] := hpre.getElem hlen
  rw [hhead]
  exact List.dropWhile_eq_self_iff.mp (List.dropWhile_idempotent p l) hlen'

@[simp] theorem strip_strip (s : String) : strip (strip s) = strip s := by
  have hstrip : strip s = String.ofList ((s.toList.dropWhile isSpace).rdropWhile isSpace) := rfl
  rw [hstrip]
  simp only [strip, String.toList_ofList]
  rw [dropWhile_rdropWhile]
  exact congrArg String.ofList (List.rdropWhile_idempotent isSpace _)

end Navi.Base
