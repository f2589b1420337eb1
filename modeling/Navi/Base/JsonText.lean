import Mathlib.Data.List.Sort
import Mathlib.Data.String.Basic
import Navi.Base.Dict

/-!
# JSON texts

`json.dumps(value, ensure_ascii=False, sort_keys=True)`, with or without the space
after its separators. Two values have one text exactly when they agree up to the
order of their keys: `render` can be read back from the front of any text in which a
number is followed by something else, and the keys of `sortKeys` are in order.
-/

namespace Navi.Base

namespace Json

/-! ## The text of strings and numbers -/

def quote : Char := Char.ofNat 0x22
def backslash : Char := Char.ofNat 0x5C
def openBracket : Char := Char.ofNat 0x5B
def closeBracket : Char := Char.ofNat 0x5D
def openBrace : Char := Char.ofNat 0x7B
def closeBrace : Char := Char.ofNat 0x7D

/-- The short escapes: a character and the letter that stands for it. -/
def shortEscapes : List (Char × Char) :=
  [(quote, quote), (backslash, backslash), (Char.ofNat 0x0A, 'n'), (Char.ofNat 0x0D, 'r'),
    (Char.ofNat 0x09, 't'), (Char.ofNat 0x0C, 'f'), (Char.ofNat 0x08, 'b')]

/-- `ESCAPE_DCT`. -/
def escapeChar (c : Char) : List Char :=
  match shortEscapes.find? fun escape => escape.1 = c with
  | some escape => [backslash, escape.2]
  | none =>
      if c.toNat < 0x20 then
        [backslash, 'u', '0', '0', Nat.digitChar (c.toNat / 16), Nat.digitChar (c.toNat % 16)]
      else [c]

/-- `encode_basestring`, without its opening quote. -/
def escapeChars : List Char → List Char
  | [] => [quote]
  | c :: rest => escapeChar c ++ escapeChars rest

/-- `encode_basestring`. -/
def renderString (s : String) : List Char := quote :: escapeChars s.toList

/-- `int.__repr__`. -/
def renderInt : Int → List Char
  | .ofNat n => Nat.toDigits 10 n
  | .negSucc n => '-' :: Nat.toDigits 10 (n + 1)

def numberChar (c : Char) : Bool :=
  c.isDigit || c = '-' || c = '+' || c = '.' || c = 'e'

theorem isSpace_of_numberChar {c : Char} (h : numberChar c = true) : isSpace c = false := by
  simp only [numberChar, Bool.or_eq_true, decide_eq_true_eq] at h
  rcases h with (((hdigit | rfl) | rfl) | rfl) | rfl
  · have hrange : 48 ≤ c.toNat ∧ c.toNat ≤ 57 := by
      simpa [Char.isDigit, UInt32.le_iff_toNat_le] using hdigit
    simp only [isSpace]
    simp
    omega
  all_goals rfl

/-- `float.__repr__` of finite floats: a number that is marked as none of the integers. -/
structure FloatText where
  text : Rat → List Char
  injective : Function.Injective text
  number : ∀ x, ∀ c ∈ text x, numberChar c = true
  marked : ∀ x, ∃ c ∈ text x, c = '.' ∨ c = 'e'

/-! ## The text of values -/

section

variable (floats : FloatText) (space : List Char)

mutual

/-- The text of a value; `space` follows each separator. -/
def render : Json → List Char
  | .null => ['n', 'u', 'l', 'l']
  | .bool true => ['t', 'r', 'u', 'e']
  | .bool false => ['f', 'a', 'l', 's', 'e']
  | .int n => renderInt n
  | .float x => floats.text x
  | .str s => renderString s
  | .arr items => openBracket :: renderItems [] items
  | .obj entries => openBrace :: renderEntries [] entries

/-- The items of a list, each after its separator, and the closing bracket. -/
def renderItems (separator : List Char) : List Json → List Char
  | [] => [closeBracket]
  | item :: rest => separator ++ (render item ++ renderItems (',' :: space) rest)

/-- The entries of an object, each after its separator, and the closing brace. -/
def renderEntries (separator : List Char) : List (String × Json) → List Char
  | [] => [closeBrace]
  | (key, value) :: rest =>
      separator ++ (renderString key ++ (':' :: (space ++ (render value
        ++ renderEntries (',' :: space) rest))))

end

mutual

/-- The value with the keys of every object in order. -/
def sortKeys : Json → Json
  | .arr items => .arr (sortItems items)
  | .obj entries => .obj ((sortEntries entries).insertionSort fun a b => a.1 ≤ b.1)
  | value => value

/-- The items of a list, each with its keys in order. -/
def sortItems : List Json → List Json
  | [] => []
  | item :: rest => sortKeys item :: sortItems rest

/-- The entries of an object, each value with its keys in order. -/
def sortEntries : List (String × Json) → List (String × Json)
  | [] => []
  | (key, value) :: rest => (key, sortKeys value) :: sortEntries rest

end

mutual

/-- No object of the value has a key twice. -/
def distinct : Json → Bool
  | .arr items => distinctItems items
  | .obj entries => decide (entries.map Prod.fst).Nodup && distinctEntries entries
  | _ => true

/-- No object of the items has a key twice. -/
def distinctItems : List Json → Bool
  | [] => true
  | item :: rest => distinct item && distinctItems rest

/-- No object of the entries' values has a key twice. -/
def distinctEntries : List (String × Json) → Bool
  | [] => true
  | (_, value) :: rest => distinct value && distinctEntries rest

end

/-- `json.dumps(value, ensure_ascii=False, sort_keys=True)`. -/
def dumps (value : Json) : String := String.ofList (render floats space (sortKeys value))

/-! ## Reading strings back -/

end

/-- The value of a lower-case hexadecimal digit. -/
def hexValue (c : Char) : Nat := if c.isDigit then c.toNat - 48 else c.toNat - 87

theorem hexValue_digitChar {n : Nat} (h : n < 16) : hexValue (Nat.digitChar n) = n := by
  revert n
  decide

/-- The first character of an escaped text, and what follows it. -/
def unescapeChar : List Char → Option (Char × List Char)
  | [] => none
  | c :: rest =>
      if c = backslash then
        match rest with
        | 'u' :: _ :: _ :: a :: b :: rest =>
            some (Char.ofNat (16 * hexValue a + hexValue b), rest)
        | d :: rest =>
            (shortEscapes.find? fun escape => escape.2 = d).map fun escape => (escape.1, rest)
        | [] => none
      else some (c, rest)

theorem unescapeChar_escapeChar (c : Char) (rest : List Char) :
    unescapeChar (escapeChar c ++ rest) = some (c, rest) := by
  unfold escapeChar
  split
  next escape hfound =>
    have hmem := List.mem_of_find?_eq_some hfound
    obtain rfl : escape.1 = c := by simpa using List.find?_some hfound
    simp only [shortEscapes, List.mem_cons, List.not_mem_nil, or_false] at hmem
    rcases hmem with rfl | rfl | rfl | rfl | rfl | rfl | rfl <;> rfl
  next hnone =>
    have hplain : c ≠ backslash := by
      rintro rfl
      exact absurd hnone (by decide)
    split
    next hcontrol =>
      have hhigh : c.toNat / 16 < 16 := by omega
      have hlow : c.toNat % 16 < 16 := by omega
      have hdigits : 16 * hexValue (Nat.digitChar (c.toNat / 16))
          + hexValue (Nat.digitChar (c.toNat % 16)) = c.toNat := by
        rw [hexValue_digitChar hhigh, hexValue_digitChar hlow]
        omega
      simp [unescapeChar, hdigits, Char.ofNat_toNat]
    next => simp [unescapeChar, hplain]

theorem escapeChar_eq_cons (c : Char) :
    ∃ first rest, escapeChar c = first :: rest ∧ first ≠ quote := by
  unfold escapeChar
  split
  next => exact ⟨_, _, rfl, by decide⟩
  next hnone =>
    split
    next => exact ⟨_, _, rfl, by decide⟩
    next =>
      refine ⟨_, _, rfl, ?_⟩
      rintro rfl
      exact absurd hnone (by decide)

theorem escapeChars_append_inj {cs ds s t : List Char}
    (h : escapeChars cs ++ s = escapeChars ds ++ t) : cs = ds ∧ s = t := by
  induction cs generalizing ds with
  | nil =>
      cases ds with
      | nil => exact ⟨rfl, List.cons.inj h |>.2⟩
      | cons d ds =>
          obtain ⟨first, rest, hchar, hfirst⟩ := escapeChar_eq_cons d
          simp only [escapeChars, hchar, List.cons_append] at h
          exact absurd (List.cons.inj h).1.symm hfirst
  | cons c cs ih =>
      cases ds with
      | nil =>
          obtain ⟨first, rest, hchar, hfirst⟩ := escapeChar_eq_cons c
          simp only [escapeChars, hchar, List.cons_append] at h
          exact absurd (List.cons.inj h).1 hfirst
      | cons d ds =>
          simp only [escapeChars, List.append_assoc] at h
          have hread := congrArg unescapeChar h
          rw [unescapeChar_escapeChar, unescapeChar_escapeChar] at hread
          obtain ⟨rfl, hrest⟩ := Prod.mk.inj (Option.some.inj hread)
          obtain ⟨rfl, hends⟩ := ih hrest
          exact ⟨rfl, hends⟩

theorem renderString_append_inj {k l : String} {s t : List Char}
    (h : renderString k ++ s = renderString l ++ t) : k = l ∧ s = t := by
  obtain ⟨hchars, hends⟩ := escapeChars_append_inj (List.cons.inj h).2
  exact ⟨String.toList_inj.mp hchars, hends⟩

/-! ## Reading numbers back -/

def Ends (s : List Char) : Prop := ∀ c ∈ s.head?, numberChar c = false

theorem takeWhile_number {text s : List Char} (htext : ∀ c ∈ text, numberChar c = true)
    (hs : Ends s) : (text ++ s).takeWhile numberChar = text := by
  rw [List.takeWhile_append_of_pos htext]
  cases s with
  | nil => simp
  | cons c rest => simp [hs c rfl]

theorem number_append_inj {text text' s t : List Char}
    (htext : ∀ c ∈ text, numberChar c = true) (htext' : ∀ c ∈ text', numberChar c = true)
    (hs : Ends s) (ht : Ends t) (h : text ++ s = text' ++ t) : text = text' ∧ s = t := by
  have hread := congrArg (List.takeWhile numberChar) h
  rw [takeWhile_number htext hs, takeWhile_number htext' ht] at hread
  subst hread
  exact ⟨rfl, List.append_cancel_left h⟩

theorem toDigits_injective {m n : Nat} (h : Nat.toDigits 10 m = Nat.toDigits 10 n) : m = n := by
  have hvalue := congrArg (fun digits => Nat.ofDigitChars 10 digits 0) h
  simpa using hvalue

theorem minus_not_mem_toDigits (n : Nat) : '-' ∉ Nat.toDigits 10 n := by
  intro hmem
  exact absurd (Nat.isDigit_of_mem_toDigits (by decide) (by decide) hmem) (by decide)

theorem renderInt_injective : Function.Injective renderInt := by
  intro m n h
  cases m with
  | ofNat m =>
      cases n with
      | ofNat n => exact congrArg Int.ofNat (toDigits_injective h)
      | negSucc n =>
          refine absurd (?_ : '-' ∈ Nat.toDigits 10 m) (minus_not_mem_toDigits m)
          rw [show Nat.toDigits 10 m = '-' :: Nat.toDigits 10 (n + 1) from h]
          exact List.mem_cons_self
  | negSucc m =>
      cases n with
      | ofNat n =>
          refine absurd (?_ : '-' ∈ Nat.toDigits 10 n) (minus_not_mem_toDigits n)
          rw [← show '-' :: Nat.toDigits 10 (m + 1) = Nat.toDigits 10 n from h]
          exact List.mem_cons_self
      | negSucc n =>
          have hdigits := toDigits_injective (List.cons.inj h).2
          rw [Nat.succ_injective hdigits]

theorem mem_renderInt {n : Int} {c : Char} (h : c ∈ renderInt n) : c.isDigit = true ∨ c = '-' := by
  cases n with
  | ofNat n => exact .inl (Nat.isDigit_of_mem_toDigits (by decide) (by decide) h)
  | negSucc n =>
      rcases List.mem_cons.mp h with rfl | hdigit
      · exact .inr rfl
      · exact .inl (Nat.isDigit_of_mem_toDigits (by decide) (by decide) hdigit)

theorem renderInt_ne_nil (n : Int) : renderInt n ≠ [] := by
  cases n with
  | ofNat n => exact Nat.toDigits_ne_nil
  | negSucc n => exact List.cons_ne_nil _ _

/-! ## Reading values back -/

section

variable {floats : FloatText} {space : List Char}

/-- The text of a number; none where the value is no number. -/
def numberText (floats : FloatText) : Json → Option (List Char)
  | .int n => some (renderInt n)
  | .float x => some (floats.text x)
  | _ => none

theorem numberText_spec (space : List Char) {v : Json} {text : List Char}
    (h : numberText floats v = some text) :
    render floats space v = text ∧ (∀ c ∈ text, numberChar c = true) ∧ text ≠ [] := by
  cases v with
  | int n =>
      obtain rfl := Option.some.inj h
      refine ⟨by simp [render], fun c hc => ?_, renderInt_ne_nil n⟩
      rcases mem_renderInt hc with hdigit | rfl
      · simp [numberChar, hdigit]
      · rfl
  | float x =>
      obtain rfl := Option.some.inj h
      obtain ⟨c, hc, -⟩ := floats.marked x
      exact ⟨by simp [render], floats.number x, List.ne_nil_of_mem hc⟩
  | null | bool | str | arr | obj => cases h

theorem numberText_injective {v w : Json} {text : List Char}
    (hv : numberText floats v = some text) (hw : numberText floats w = some text) : v = w := by
  have hmark : ∀ n x, renderInt n ≠ floats.text x := by
    intro n x h
    obtain ⟨c, hc, hmarked⟩ := floats.marked x
    rw [← h] at hc
    rcases mem_renderInt hc with hdigit | rfl
    · rcases hmarked with rfl | rfl
      · exact absurd hdigit (by decide)
      · exact absurd hdigit (by decide)
    · exact absurd hmarked (by decide)
  cases v with
  | int n =>
      obtain rfl := Option.some.inj hv
      cases w with
      | int m => rw [renderInt_injective (Option.some.inj hw)]
      | float x => exact absurd (Option.some.inj hw).symm (hmark n x)
      | null | bool | str | arr | obj => cases hw
  | float x =>
      obtain rfl := Option.some.inj hv
      cases w with
      | int n => exact absurd (Option.some.inj hw) (hmark n x)
      | float y => rw [floats.injective (Option.some.inj hw)]
      | null | bool | str | arr | obj => cases hw
  | null | bool | str | arr | obj => cases hv

/-- The first character of a value that is no number. -/
def lead : Json → Char
  | .null => 'n'
  | .bool true => 't'
  | .bool false => 'f'
  | .str _ => quote
  | .arr _ => openBracket
  | .obj _ => openBrace
  | .int _ | .float _ => '-'

theorem render_eq_lead (space : List Char) {v : Json} (h : numberText floats v = none) :
    ∃ rest, render floats space v = lead v :: rest := by
  cases v with
  | null => simp [render, lead]
  | bool b => cases b <;> simp [render, lead]
  | str s => simp [render, lead, renderString]
  | arr items => simp [render, lead]
  | obj entries => simp [render, lead]
  | int | float => cases h

theorem lead_ne_closeBracket (v : Json) : lead v ≠ closeBracket := by
  cases v with
  | null => decide
  | bool b => cases b <;> decide
  | int n => exact show '-' ≠ closeBracket by decide
  | float x => exact show '-' ≠ closeBracket by decide
  | str s => exact show quote ≠ closeBracket by decide
  | arr items => exact show openBracket ≠ closeBracket by decide
  | obj entries => exact show openBrace ≠ closeBracket by decide

theorem lead_not_number {v : Json} (h : numberText floats v = none) :
    numberChar (lead v) = false := by
  cases v with
  | bool b => cases b <;> rfl
  | null | str | arr | obj => rfl
  | int | float => cases h

theorem render_append_ne {v : Json} {s rest : List Char} :
    render floats space v ++ s ≠ closeBracket :: rest := by
  intro h
  cases hv : numberText floats v with
  | some text =>
      obtain ⟨htext, hnumber, hne⟩ := numberText_spec space hv
      obtain ⟨c, text, rfl⟩ := List.exists_cons_of_ne_nil hne
      rw [htext, List.cons_append] at h
      have hc := hnumber c List.mem_cons_self
      rw [(List.cons.inj h).1] at hc
      exact absurd hc (by decide)
  | none =>
      obtain ⟨tail, htail⟩ := render_eq_lead space hv
      rw [htail, List.cons_append] at h
      exact lead_ne_closeBracket v (List.cons.inj h).1

/-- A separator, or none before the first item. -/
def Separates (separator : List Char) : Prop :=
  separator = [] ∨ ∃ rest, separator = ',' :: rest

theorem ends_renderItems (separator : List Char) (items : List Json) (s : List Char)
    (h : ∃ rest, separator = ',' :: rest) :
    Ends (renderItems floats space separator items ++ s) := by
  obtain ⟨rest, rfl⟩ := h
  intro c hc
  cases items with
  | nil =>
      obtain rfl : closeBracket = c := by simpa [renderItems] using hc
      rfl
  | cons item items =>
      obtain rfl : ',' = c := by simpa [renderItems] using hc
      rfl

theorem ends_renderEntries (separator : List Char) (entries : List (String × Json))
    (s : List Char) (h : ∃ rest, separator = ',' :: rest) :
    Ends (renderEntries floats space separator entries ++ s) := by
  obtain ⟨rest, rfl⟩ := h
  intro c hc
  cases entries with
  | nil =>
      obtain rfl : closeBrace = c := by simpa [renderEntries] using hc
      rfl
  | cons entry entries =>
      obtain ⟨key, value⟩ := entry
      obtain rfl : ',' = c := by simpa [renderEntries] using hc
      rfl

theorem render_number_append_inj {v w : Json} {text s t : List Char} (hs : Ends s) (ht : Ends t)
    (hv : numberText floats v = some text)
    (h : render floats space v ++ s = render floats space w ++ t) : v = w ∧ s = t := by
  obtain ⟨htext, hnumber, hne⟩ := numberText_spec space hv
  rw [htext] at h
  cases hw : numberText floats w with
  | some text' =>
      obtain ⟨htext', hnumber', -⟩ := numberText_spec space hw
      rw [htext'] at h
      obtain ⟨rfl, hends⟩ := number_append_inj hnumber hnumber' hs ht h
      exact ⟨numberText_injective hv hw, hends⟩
  | none =>
      obtain ⟨tail, htail⟩ := render_eq_lead space hw
      obtain ⟨c, text, rfl⟩ := List.exists_cons_of_ne_nil hne
      rw [htail, List.cons_append, List.cons_append] at h
      have hc := hnumber c List.mem_cons_self
      rw [(List.cons.inj h).1, lead_not_number hw] at hc
      cases hc

theorem lead_eq_of_append_eq {v w : Json} {s t : List Char} (hv : numberText floats v = none)
    (hw : numberText floats w = none)
    (h : render floats space v ++ s = render floats space w ++ t) : lead v = lead w := by
  obtain ⟨rest, hrest⟩ := render_eq_lead space hv
  obtain ⟨rest', hrest'⟩ := render_eq_lead space hw
  rw [hrest, hrest', List.cons_append, List.cons_append] at h
  exact (List.cons.inj h).1

mutual

theorem render_append_inj (v w : Json) (s t : List Char) (hs : Ends s) (ht : Ends t)
    (h : render floats space v ++ s = render floats space w ++ t) : v = w ∧ s = t := by
  cases hv : numberText floats v with
  | some text => exact render_number_append_inj hs ht hv h
  | none =>
      cases hw : numberText floats w with
      | some text =>
          obtain ⟨rfl, hends⟩ := render_number_append_inj ht hs hw h.symm
          exact ⟨rfl, hends.symm⟩
      | none =>
          have hlead := lead_eq_of_append_eq hv hw h
          cases v with
          | int | float => cases hv
          | null =>
              cases w with
              | null => exact ⟨rfl, List.append_cancel_left h⟩
              | bool b => cases b <;> exact absurd hlead (by decide)
              | str | arr | obj =>
                  exact absurd hlead (by simp [lead, quote, openBracket, openBrace])
              | int | float => cases hw
          | bool b =>
              cases w with
              | bool c =>
                  cases b <;> cases c <;> first
                    | exact ⟨rfl, List.append_cancel_left h⟩
                    | exact absurd hlead (by decide)
              | null => cases b <;> exact absurd hlead (by decide)
              | str | arr | obj =>
                  cases b <;> exact absurd hlead (by simp [lead, quote, openBracket, openBrace])
              | int | float => cases hw
          | str k =>
              cases w with
              | str l =>
                  simp only [render] at h
                  obtain ⟨rfl, hends⟩ := renderString_append_inj h
                  exact ⟨rfl, hends⟩
              | bool b =>
                  cases b <;> exact absurd hlead (by simp [lead, quote])
              | null | arr | obj =>
                  exact absurd hlead (by simp [lead, quote, openBracket, openBrace])
              | int | float => cases hw
          | arr items =>
              cases w with
              | arr items' =>
                  simp only [render, List.cons_append, List.cons.injEq, true_and] at h
                  obtain ⟨rfl, hends⟩ := renderItems_append_inj [] (.inl rfl) items items' s t h
                  exact ⟨rfl, hends⟩
              | bool b => cases b <;> exact absurd hlead (by simp [lead, openBracket])
              | null | str | obj =>
                  exact absurd hlead (by simp [lead, quote, openBracket, openBrace])
              | int | float => cases hw
          | obj entries =>
              cases w with
              | obj entries' =>
                  simp only [render, List.cons_append, List.cons.injEq, true_and] at h
                  obtain ⟨rfl, hends⟩ :=
                    renderEntries_append_inj [] (.inl rfl) entries entries' s t h
                  exact ⟨rfl, hends⟩
              | bool b => cases b <;> exact absurd hlead (by simp [lead, openBrace])
              | null | str | arr =>
                  exact absurd hlead (by simp [lead, quote, openBracket, openBrace])
              | int | float => cases hw

theorem renderItems_append_inj (separator : List Char) (hseparator : Separates separator)
    (items items' : List Json) (s t : List Char)
    (h : renderItems floats space separator items ++ s
      = renderItems floats space separator items' ++ t) : items = items' ∧ s = t := by
  cases items with
  | nil =>
      cases items' with
      | nil => exact ⟨rfl, by simpa [renderItems] using h⟩
      | cons item rest =>
          simp only [renderItems, List.append_assoc] at h
          rcases hseparator with rfl | ⟨tail, rfl⟩
          · exact absurd h.symm render_append_ne
          · exact absurd (List.cons.inj h).1 (by decide)
  | cons item rest =>
      cases items' with
      | nil =>
          simp only [renderItems, List.append_assoc] at h
          rcases hseparator with rfl | ⟨tail, rfl⟩
          · exact absurd h render_append_ne
          · exact absurd (List.cons.inj h).1 (by decide)
      | cons item' rest' =>
          simp only [renderItems, List.append_assoc, List.append_cancel_left_eq] at h
          obtain ⟨rfl, hrest⟩ := render_append_inj item item' _ _
            (ends_renderItems _ rest s ⟨_, rfl⟩) (ends_renderItems _ rest' t ⟨_, rfl⟩) h
          obtain ⟨rfl, hends⟩ := renderItems_append_inj _ (.inr ⟨_, rfl⟩) rest rest' s t hrest
          exact ⟨rfl, hends⟩

theorem renderEntries_append_inj (separator : List Char) (hseparator : Separates separator)
    (entries entries' : List (String × Json)) (s t : List Char)
    (h : renderEntries floats space separator entries ++ s
      = renderEntries floats space separator entries' ++ t) : entries = entries' ∧ s = t := by
  cases entries with
  | nil =>
      cases entries' with
      | nil => exact ⟨rfl, by simpa [renderEntries] using h⟩
      | cons entry rest =>
          obtain ⟨key, value⟩ := entry
          simp only [renderEntries, List.append_assoc] at h
          rcases hseparator with rfl | ⟨tail, rfl⟩
          · exact absurd (List.cons.inj h).1 (by decide)
          · exact absurd (List.cons.inj h).1 (by decide)
  | cons entry rest =>
      obtain ⟨key, value⟩ := entry
      cases entries' with
      | nil =>
          simp only [renderEntries, List.append_assoc] at h
          rcases hseparator with rfl | ⟨tail, rfl⟩
          · exact absurd (List.cons.inj h).1 (by decide)
          · exact absurd (List.cons.inj h).1 (by decide)
      | cons entry' rest' =>
          obtain ⟨key', value'⟩ := entry'
          simp only [renderEntries, List.append_assoc, List.append_cancel_left_eq,
            List.cons_append] at h
          obtain ⟨rfl, hvalue⟩ := renderString_append_inj h
          simp only [List.cons.injEq, true_and, List.append_cancel_left_eq] at hvalue
          obtain ⟨rfl, hrest⟩ := render_append_inj value value' _ _
            (ends_renderEntries _ rest s ⟨_, rfl⟩) (ends_renderEntries _ rest' t ⟨_, rfl⟩) hvalue
          obtain ⟨rfl, hends⟩ := renderEntries_append_inj _ (.inr ⟨_, rfl⟩) rest rest' s t hrest
          exact ⟨rfl, hends⟩

end

theorem dumps_eq_iff {v w : Json} :
    dumps floats space v = dumps floats space w ↔ sortKeys v = sortKeys w := by
  constructor
  · intro h
    have hchars := String.ofList_injective h
    have hends : Ends [] := fun c hc => by cases hc
    exact (render_append_inj (sortKeys v) (sortKeys w) [] [] hends hends
      (by rw [List.append_nil, List.append_nil, hchars])).1
  · intro h
    unfold dumps
    rw [h]

end

/-! ## Keys in order -/

/-- Entries in the order of their keys. -/
def sortByKey (entries : List (String × Json)) : List (String × Json) :=
  entries.insertionSort fun a b => a.1 ≤ b.1

theorem sortByKey_perm (entries : List (String × Json)) : (sortByKey entries).Perm entries :=
  List.perm_insertionSort _ entries

theorem sortItems_eq_map (items : List Json) : sortItems items = items.map sortKeys := by
  induction items with
  | nil => simp [sortItems]
  | cons item rest ih => simp [sortItems, ih]

theorem sortEntries_eq_map (entries : List (String × Json)) :
    sortEntries entries = entries.map fun entry => (entry.1, sortKeys entry.2) := by
  induction entries with
  | nil => simp [sortEntries]
  | cons entry rest ih => simp [sortEntries, ih]

theorem sortKeys_obj (entries : List (String × Json)) :
    sortKeys (.obj entries) = .obj (sortByKey (sortEntries entries)) := by
  simp only [sortKeys, sortByKey]

theorem map_sortByKey {change : String × Json → String × Json}
    (hkeys : ∀ entry, (change entry).1 = entry.1) (entries : List (String × Json)) :
    (sortByKey entries).map change = sortByKey (entries.map change) := by
  refine List.map_insertionSort _ _ change entries fun a _ b _ => ?_
  rw [hkeys, hkeys]

theorem sortEntries_sortByKey (entries : List (String × Json)) :
    sortEntries (sortByKey entries) = sortByKey (sortEntries entries) := by
  rw [sortEntries_eq_map, sortEntries_eq_map]
  apply map_sortByKey
  intro entry
  rfl

theorem sortByKey_sortByKey (entries : List (String × Json)) :
    sortByKey (sortByKey entries) = sortByKey entries :=
  List.Pairwise.insertionSort_eq (List.pairwise_insertionSort _ entries)

mutual

theorem sortKeys_sortKeys (v : Json) : sortKeys (sortKeys v) = sortKeys v := by
  cases v with
  | arr items => simp only [sortKeys, sortItems_sortItems items]
  | obj entries =>
      rw [sortKeys_obj, sortKeys_obj, sortEntries_sortByKey, sortEntries_sortEntries entries,
        sortByKey_sortByKey]
  | null | bool | int | float | str => simp only [sortKeys]

theorem sortItems_sortItems (items : List Json) :
    sortItems (sortItems items) = sortItems items := by
  cases items with
  | nil => simp only [sortItems]
  | cons item rest =>
      simp only [sortItems, sortKeys_sortKeys item, sortItems_sortItems rest]

theorem sortEntries_sortEntries (entries : List (String × Json)) :
    sortEntries (sortEntries entries) = sortEntries entries := by
  cases entries with
  | nil => simp only [sortEntries]
  | cons entry rest =>
      obtain ⟨key, value⟩ := entry
      simp only [sortEntries, sortKeys_sortKeys value, sortEntries_sortEntries rest]

end

theorem sortEntries_of_sorted {entries : List (String × Json)}
    (h : sortKeys (.obj entries) = .obj entries) : sortEntries entries = entries := by
  rw [sortKeys_obj] at h
  have hentries := Json.obj.inj h
  have hsorted := sortEntries_sortByKey (sortEntries entries)
  rw [hentries, sortEntries_sortEntries, hentries] at hsorted
  exact hsorted

theorem get_orderedInsert (entry : String × Json) (entries : List (String × Json)) (key : String) :
    Dict.get (entries.orderedInsert (fun a b => a.1 ≤ b.1) entry) key
      = Dict.get (entry :: entries) key := by
  induction entries with
  | nil => rfl
  | cons next rest ih =>
      obtain ⟨k, v⟩ := entry
      obtain ⟨l, w⟩ := next
      rw [List.orderedInsert_cons]
      split
      next => rfl
      next hlater =>
        have hne : k ≠ l := fun heq => hlater (le_of_eq heq)
        rw [Dict.get_cons, ih, Dict.get_cons, Dict.get_cons, Dict.get_cons]
        by_cases hl : l = key
        · subst hl
          simp [hne]
        · simp [hl]

theorem get_sortByKey (entries : List (String × Json)) (key : String) :
    Dict.get (sortByKey entries) key = Dict.get entries key := by
  induction entries with
  | nil => rfl
  | cons entry rest ih =>
      rw [sortByKey, List.insertionSort_cons, get_orderedInsert]
      obtain ⟨k, v⟩ := entry
      rw [Dict.get_cons, Dict.get_cons]
      exact congrArg _ ih

theorem get_sortEntries (entries : List (String × Json)) (key : String) :
    Dict.get (sortEntries entries) key = (Dict.get entries key).map sortKeys := by
  induction entries with
  | nil => simp [sortEntries]
  | cons entry rest ih =>
      obtain ⟨k, v⟩ := entry
      simp only [sortEntries, Dict.get_cons, ih]
      split <;> simp

/-! ## Values up to the order of their keys -/

/-- Two values agree up to the order of their keys. -/
def Same (v w : Json) : Prop := sortKeys v = sortKeys w

/-- Anything but a list or an object. -/
def scalar : Json → Bool
  | .arr _ | .obj _ => false
  | _ => true

theorem Same.eq_of_scalar {v w : Json} (h : Same v w) (hw : w.scalar = true) : v = w := by
  unfold Same at h
  cases w with
  | arr items => cases hw
  | obj entries => cases hw
  | _ => cases v <;> simp_all [sortKeys]

theorem Same.arr {v : Json} {ws : List Json} (h : Same v (.arr ws)) :
    ∃ vs, v = .arr vs ∧ List.Forall₂ Same vs ws := by
  unfold Same at h
  cases v with
  | arr vs =>
      refine ⟨vs, rfl, ?_⟩
      simp only [sortKeys, sortItems_eq_map, Json.arr.injEq] at h
      have hlength : vs.length = ws.length := by simpa using congrArg List.length h
      refine List.forall₂_iff_get.mpr ⟨hlength, fun i hv hw => ?_⟩
      have hat : (vs.map sortKeys)[i]? = (ws.map sortKeys)[i]? := by rw [h]
      show sortKeys _ = sortKeys _
      simpa [hv, hw] using hat
  | _ => simp [sortKeys] at h

theorem Same.obj {v : Json} {d : Dict} (h : Same v (.obj d)) : ∃ e, v = .obj e := by
  unfold Same at h
  cases v with
  | obj e => exact ⟨e, rfl⟩
  | _ => simp [sortKeys] at h

theorem Same.get {d e : Dict} (h : Same (.obj e) (.obj d)) {key : String} {w : Json}
    (hw : Dict.get d key = some w) : ∃ v, Dict.get e key = some v ∧ Same v w := by
  unfold Same at h
  rw [sortKeys_obj, sortKeys_obj, Json.obj.injEq] at h
  have hlookup := congrArg (fun entries => Dict.get entries key) h
  simp only [get_sortByKey, get_sortEntries, hw, Option.map_some] at hlookup
  exact Option.map_eq_some_iff.mp hlookup

theorem Same.mem_keys {d e : Dict} (h : Same (.obj e) (.obj d)) {entry : String × Json}
    (hentry : entry ∈ e) : entry.1 ∈ d.map Prod.fst := by
  unfold Same at h
  rw [sortKeys_obj, sortKeys_obj, Json.obj.injEq] at h
  have hperm : (sortEntries e).Perm (sortEntries d) :=
    ((sortByKey_perm _).symm.trans (h ▸ List.Perm.refl _)).trans (sortByKey_perm _)
  have hkeys := hperm.map Prod.fst
  rw [sortEntries_eq_map, sortEntries_eq_map, List.map_map, List.map_map] at hkeys
  exact hkeys.subset (List.mem_map.mpr ⟨entry, hentry, rfl⟩)

theorem Same.sortedKeys {d e : Dict} (h : Same (.obj e) (.obj d)) :
    (e.map Prod.fst).insertionSort (· ≤ ·) = (d.map Prod.fst).insertionSort (· ≤ ·) := by
  have hkeys (entries : Dict) : (sortByKey (sortEntries entries)).map Prod.fst
      = (entries.map Prod.fst).insertionSort (· ≤ ·) := by
    unfold sortByKey
    rw [List.map_insertionSort _ (· ≤ ·) Prod.fst _ fun _ _ _ _ => Iff.rfl, sortEntries_eq_map,
      List.map_map]
    rfl
  unfold Same at h
  rw [sortKeys_obj, sortKeys_obj, Json.obj.injEq] at h
  rw [← hkeys, ← hkeys, h]

theorem sortByKey_eq_of_perm {d e : List (String × Json)} (h : d.Perm e)
    (hkeys : (d.map Prod.fst).Nodup) : sortByKey d = sortByKey e := by
  have hperm : (sortByKey d).Perm (sortByKey e) :=
    ((sortByKey_perm d).trans h).trans (sortByKey_perm e).symm
  have hsorted (entries : List (String × Json)) :
      (sortByKey entries).Pairwise fun a b => a.1 ≤ b.1 := List.pairwise_insertionSort _ entries
  refine List.Perm.eq_of_pairwise ?_ (hsorted d) (hsorted e) hperm
  intro a b ha hb hab hba
  have hmem : b ∈ d := h.symm.subset ((sortByKey_perm e).subset hb)
  exact List.inj_on_of_nodup_map hkeys ((sortByKey_perm d).subset ha) hmem (le_antisymm hab hba)

theorem distinctEntries_iff (entries : List (String × Json)) :
    distinctEntries entries = true ↔ ∀ entry ∈ entries, entry.2.distinct = true := by
  induction entries with
  | nil => simp [distinctEntries]
  | cons entry rest ih =>
      obtain ⟨key, value⟩ := entry
      simp [distinctEntries, ih]

theorem distinct_obj_iff (d : Dict) : (Json.obj d).distinct = true
    ↔ (d.map Prod.fst).Nodup ∧ ∀ entry ∈ d, entry.2.distinct = true := by
  rw [distinct, Bool.and_eq_true, decide_eq_true_iff, distinctEntries_iff]

theorem distinctEntries_sortByKey (entries : List (String × Json)) :
    distinctEntries (sortByKey entries) = true ↔ distinctEntries entries = true := by
  rw [distinctEntries_iff, distinctEntries_iff]
  exact forall_congr' fun _ => imp_congr_left (sortByKey_perm entries).mem_iff

mutual

theorem distinct_sortKeys {v : Json} (h : v.distinct = true) : (sortKeys v).distinct = true := by
  cases v with
  | arr items =>
      simp only [sortKeys, distinct] at h ⊢
      exact distinctItems_sortItems h
  | obj entries =>
      rw [sortKeys_obj]
      rw [distinct, Bool.and_eq_true, decide_eq_true_iff] at h ⊢
      refine ⟨?_, (distinctEntries_sortByKey _).mpr (distinctEntries_sortEntries h.2)⟩
      rw [((sortByKey_perm _).map Prod.fst).nodup_iff, sortEntries_eq_map, List.map_map]
      exact h.1
  | null | bool | int | float | str => simpa only [sortKeys] using h

theorem distinctItems_sortItems {items : List Json} (h : distinctItems items = true) :
    distinctItems (sortItems items) = true := by
  cases items with
  | nil => simp only [sortItems, distinctItems]
  | cons item rest =>
      simp only [sortItems, distinctItems, Bool.and_eq_true] at h ⊢
      exact ⟨distinct_sortKeys h.1, distinctItems_sortItems h.2⟩

theorem distinctEntries_sortEntries {entries : List (String × Json)}
    (h : distinctEntries entries = true) : distinctEntries (sortEntries entries) = true := by
  cases entries with
  | nil => simp only [sortEntries, distinctEntries]
  | cons entry rest =>
      obtain ⟨key, value⟩ := entry
      simp only [sortEntries, distinctEntries, Bool.and_eq_true] at h ⊢
      exact ⟨distinct_sortKeys h.1, distinctEntries_sortEntries h.2⟩

end

theorem mem_of_get {d : Dict} {key : String} {v : Json} (h : d.get key = some v) :
    (key, v) ∈ d := by
  induction d with
  | nil => cases h
  | cons entry rest ih =>
      obtain ⟨k, w⟩ := entry
      rw [Dict.get_cons] at h
      split at h
      next hk =>
        obtain rfl := Option.some.inj h
        exact hk ▸ List.mem_cons_self
      next => exact List.mem_cons_of_mem _ (ih h)

theorem perm_put {d : Dict} {key : String} {v : Json} (hkeys : (d.map Prod.fst).Nodup)
    (h : d.get key = some v) : (d.put key v).Perm d := by
  unfold Dict.put Dict.pop
  induction d with
  | nil => cases h
  | cons entry rest ih =>
      obtain ⟨k, w⟩ := entry
      rw [List.map_cons, List.nodup_cons] at hkeys
      rw [Dict.get_cons] at h
      by_cases hk : k = key
      · subst hk
        obtain rfl := Option.some.inj ((if_pos rfl).symm.trans h)
        have hrest : rest.filter (fun e => e.1 ≠ k) = rest := by
          rw [List.filter_eq_self]
          intro e he
          refine decide_eq_true fun heq => hkeys.1 ?_
          exact List.mem_map.mpr ⟨e, he, heq⟩
        rw [List.filter_cons_of_neg (by simp), hrest]
      · rw [if_neg hk] at h
        rw [List.filter_cons_of_pos (by simpa using hk)]
        exact (List.Perm.swap _ _ _).trans ((ih hkeys.2 h).cons _)

theorem same_put {d : Dict} {key : String} {v : Json} (hd : (Json.obj d).distinct = true)
    (h : d.get key = some v) : Same (.obj (d.put key v)) (.obj d) := by
  have hkeys := ((distinct_obj_iff d).mp hd).1
  have hperm := perm_put hkeys h
  unfold Same
  rw [sortKeys_obj, sortKeys_obj, sortEntries_eq_map, sortEntries_eq_map]
  refine congrArg Json.obj (sortByKey_eq_of_perm (hperm.map _) ?_)
  rw [List.map_map]
  exact (hperm.map Prod.fst).nodup_iff.mpr hkeys

theorem distinct_put {d : Dict} {key : String} {v : Json} (hd : (Json.obj d).distinct = true)
    (hv : v.distinct = true) : (Json.obj (d.put key v)).distinct = true := by
  rw [distinct_obj_iff] at hd ⊢
  unfold Dict.put Dict.pop
  constructor
  · rw [List.map_cons, List.nodup_cons]
    refine ⟨?_, hd.1.sublist (List.filter_sublist.map Prod.fst)⟩
    intro hmem
    obtain ⟨entry, hentry, hkey⟩ := List.mem_map.mp hmem
    exact absurd hkey (by simpa using (List.mem_filter.mp hentry).2)
  · intro entry hentry
    rcases List.mem_cons.mp hentry with rfl | hentry
    · exact hv
    · exact hd.2 entry (List.mem_filter.mp hentry).1

/-! ## A text for floats -/

theorem append_marker_inj {c : Char} {l l' s t : List Char} (hl : c ∉ l) (hl' : c ∉ l')
    (h : l ++ c :: s = l' ++ c :: t) : l = l' ∧ s = t := by
  induction l generalizing l' with
  | nil =>
      cases l' with
      | nil => exact ⟨rfl, (List.cons.inj h).2⟩
      | cons d l' =>
          obtain rfl := (List.cons.inj h).1
          exact absurd List.mem_cons_self hl'
  | cons d l ih =>
      cases l' with
      | nil =>
          obtain rfl := (List.cons.inj h).1
          exact absurd List.mem_cons_self hl
      | cons e l' =>
          obtain ⟨rfl, hrest⟩ := List.cons.inj h
          obtain ⟨rfl, htail⟩ := ih (fun hmem => hl (List.mem_cons_of_mem _ hmem))
            (fun hmem => hl' (List.mem_cons_of_mem _ hmem)) hrest
          exact ⟨rfl, htail⟩

/-- Floats as their numerator and denominator. -/
def fractionText : FloatText where
  text x := renderInt x.num ++ 'e' :: Nat.toDigits 10 x.den
  injective := by
    intro x y h
    have hnone : ∀ n : Int, 'e' ∉ renderInt n := fun n hmem =>
      (mem_renderInt hmem).elim (fun h => absurd h (by decide)) fun h => absurd h (by decide)
    have htext : renderInt x.num ++ 'e' :: Nat.toDigits 10 x.den
        = renderInt y.num ++ 'e' :: Nat.toDigits 10 y.den := h
    obtain ⟨hnum, hden⟩ := append_marker_inj (hnone _) (hnone _) htext
    exact Rat.ext (renderInt_injective hnum) (toDigits_injective hden)
  number := by
    intro x c hc
    rcases List.mem_append.mp hc with hnum | hrest
    · rcases mem_renderInt hnum with hdigit | rfl
      · simp [numberChar, hdigit]
      · rfl
    · rcases List.mem_cons.mp hrest with rfl | hden
      · rfl
      · have hdigit := Nat.isDigit_of_mem_toDigits (by decide) (by decide) hden
        simp [numberChar, hdigit]
  marked x := ⟨'e', List.mem_append_right _ List.mem_cons_self, .inr rfl⟩

/-- `float` of a number. -/
def readNumber : Json → Option Rat
  | .float x => some x
  | .int n => some n
  | _ => none

theorem readNumber_float (x : Rat) : readNumber (.float x) = some x := rfl

/-- `int` of an integer. -/
def readInteger : Json → Option Int
  | .int n => some n
  | _ => none

theorem readInteger_int (n : Int) : readInteger (.int n) = some n := rfl

end Json

/-- `f"{x:.nf}"` of a number that is not negative. -/
def decimals (places : Nat) (x : Rat) : String :=
  let scaled := (x * 10 ^ places + 1 / 2).floor.natAbs
  let fraction := (toString (scaled % 10 ^ places)).toList
  toString (scaled / 10 ^ places) ++ "."
    ++ String.ofList (List.replicate (places - fraction.length) '0' ++ fraction)

end Navi.Base
