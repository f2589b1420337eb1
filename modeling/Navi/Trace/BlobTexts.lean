import Navi.Trace.Interning

/-!
# The references in a text

Where a value is written in front of what follows a value in JSON, the pattern finds all it
finds in what follows, and every reference of the value. A quote at which the pattern
matches ends a key; the match ends with the text after it, or inside it.
-/

namespace Navi.Trace

open Navi.Base Navi.Base.Json

/-! ## The pattern at one character -/

theorem findBlobs_cons_of_none {c : Char} {rest : List Char} (h : blobMatch (c :: rest) = none) :
    findBlobs (c :: rest) = findBlobs rest := by
  rw [findBlobs]
  split
  next hsome => rw [h] at hsome; cases hsome
  next => rfl

theorem findBlobs_of_some {text group after : List Char}
    (h : blobMatch text = some (group, after)) :
    findBlobs text = String.ofList group :: findBlobs after := by
  cases text with
  | nil => cases h
  | cons c rest =>
      rw [findBlobs]
      split
      next hsome =>
        rw [h] at hsome
        cases hsome
        rfl
      next hnone => rw [h] at hnone; cases hnone

theorem blobMatch_eq_none {text : List Char} (h : ∀ rest, blobMarker ++ rest ≠ text) :
    blobMatch text = none := by
  cases hmarker : blobMarker.isPrefixOf? text with
  | none => rw [blobMatch, hmarker, Option.bind_none]
  | some rest => exact absurd (List.isPrefixOf?_eq_some_iff_append_eq.mp hmarker) (h rest)

theorem findBlobs_cons {c : Char} (rest : List Char) (h : c ≠ quote) :
    findBlobs (c :: rest) = findBlobs rest :=
  findBlobs_cons_of_none (blobMatch_eq_none fun _ heq => h (List.cons.inj heq).1.symm)

theorem findBlobs_append {text : List Char} (rest : List Char) (h : ∀ c ∈ text, c ≠ quote) :
    findBlobs (text ++ rest) = findBlobs rest := by
  induction text with
  | nil => rfl
  | cons c text ih =>
      rw [List.cons_append, findBlobs_cons _ (h c List.mem_cons_self)]
      exact ih fun d hd => h d (List.mem_cons_of_mem _ hd)

theorem ne_quote_of_all {text : List Char} (h : text.all (· ≠ quote) = true) :
    ∀ c ∈ text, c ≠ quote := fun c hc =>
  of_decide_eq_true (List.all_eq_true.mp h c hc)

theorem findBlobs_quote_cons {c : Char} (rest : List Char) (h : c ≠ '$') :
    findBlobs (quote :: c :: rest) = findBlobs (c :: rest) :=
  findBlobs_cons_of_none (blobMatch_eq_none fun _ heq =>
    h (List.cons.inj (List.cons.inj heq).2).1.symm)

theorem blobMarker_eq : blobMarker = quote :: escapeChars "$blob".toList := by
  decide

/-- A quote before an escaped text: the pattern matches only where the text is the marker's. -/
theorem blobMatch_quote_escapeChars (cs rest : List Char) :
    blobMatch (quote :: (escapeChars cs ++ rest))
      = if cs = "$blob".toList then colonGroup rest else none := by
  split
  next h =>
    have hmarker : blobMarker.isPrefixOf? (quote :: (escapeChars cs ++ rest)) = some rest := by
      refine List.isPrefixOf?_eq_some_iff_append_eq.mpr ?_
      rw [blobMarker_eq, h, List.cons_append]
    rw [blobMatch, hmarker, Option.bind_some]
  next h =>
    refine blobMatch_eq_none fun tail heq => h ?_
    rw [blobMarker_eq, List.cons_append] at heq
    exact (escapeChars_append_inj (List.cons.inj heq).2).1.symm

/-! ## Texts in quotes -/

theorem digitChar_ne_quote {n : Nat} (h : n < 16) : Nat.digitChar n ≠ quote := by
  revert n
  decide

theorem escapeChar_quotes (c : Char) :
    c = quote ∧ escapeChar c = [backslash, quote] ∨ ∀ d ∈ escapeChar c, d ≠ quote := by
  by_cases hquote : c = quote
  · subst hquote
    exact .inl ⟨rfl, by decide⟩
  · refine .inr ?_
    unfold escapeChar
    split
    next escape hfound =>
      obtain rfl : escape.1 = c := by simpa using List.find?_some hfound
      have hletters : ∀ escape ∈ shortEscapes, escape.1 ≠ quote → escape.2 ≠ quote := by decide
      have hletter := hletters escape (List.mem_of_find?_eq_some hfound) hquote
      intro d hd
      simp only [List.mem_cons, List.not_mem_nil, or_false] at hd
      rcases hd with rfl | rfl
      · decide
      · exact hletter
    next hnone =>
      split
      next hcontrol =>
        have hhigh := digitChar_ne_quote (show c.toNat / 16 < 16 by omega)
        have hlow := digitChar_ne_quote (show c.toNat % 16 < 16 by omega)
        intro d hd
        simp only [List.mem_cons, List.not_mem_nil, or_false] at hd
        rcases hd with rfl | rfl | rfl | rfl | rfl | rfl
        · decide
        · decide
        · decide
        · decide
        · exact hhigh
        · exact hlow
      next =>
        intro d hd
        obtain rfl := List.mem_singleton.mp hd
        exact hquote

def Follows (rest : List Char) : Prop :=
  ∀ c ∈ rest.head?, c = ',' ∨ c = closeBracket ∨ c = closeBrace

theorem colonGroup_of_follows {rest : List Char} (h : Follows rest) : colonGroup rest = none := by
  cases rest with
  | nil => rfl
  | cons c rest => rcases h c rfl with rfl | rfl | rfl <;> rfl

theorem colonGroup_colon (rest : List Char) :
    colonGroup (':' :: ' ' :: rest) = quotedGroup (rest.dropWhile isSpace) := rfl

theorem findBlobs_quote_of_follows {rest : List Char} (h : Follows rest) :
    findBlobs (quote :: rest) = findBlobs rest := by
  cases rest with
  | nil =>
      refine findBlobs_cons_of_none (blobMatch_eq_none fun tail heq => ?_)
      exact absurd (List.cons.inj heq).2 (List.cons_ne_nil _ _)
  | cons c rest =>
      refine findBlobs_quote_cons rest fun hc => ?_
      rcases h c rfl with rfl | rfl | rfl <;> exact absurd hc (by decide)

theorem findBlobs_escapeChars (cs : List Char) {rest : List Char} (h : Follows rest) :
    findBlobs (escapeChars cs ++ rest) = findBlobs rest := by
  induction cs with
  | nil => exact findBlobs_quote_of_follows h
  | cons c cs ih =>
      rw [escapeChars, List.append_assoc]
      rcases escapeChar_quotes c with ⟨-, hescape⟩ | hplain
      · have hnone : blobMatch (quote :: (escapeChars cs ++ rest)) = none := by
          rw [blobMatch_quote_escapeChars, colonGroup_of_follows h, ite_self]
        rw [hescape, List.cons_append, findBlobs_cons _ (by decide), List.cons_append,
          List.nil_append, findBlobs_cons_of_none hnone, ih]
      · rw [findBlobs_append _ hplain, ih]

theorem findBlobs_renderString (s : String) {rest : List Char} (h : Follows rest) :
    findBlobs (renderString s ++ rest) = findBlobs rest := by
  have hnone : blobMatch (quote :: (escapeChars s.toList ++ rest)) = none := by
    rw [blobMatch_quote_escapeChars, colonGroup_of_follows h, ite_self]
  rw [renderString, List.cons_append, findBlobs_cons_of_none hnone, findBlobs_escapeChars _ h]

theorem findBlobs_after_quote (cs : List Char) {rest tail : List Char} {c : Char}
    (h : Follows rest) (hdrop : (escapeChars cs ++ rest).dropWhile (· ≠ quote) = c :: tail) :
    findBlobs tail = findBlobs rest := by
  induction cs with
  | nil =>
      simp only [escapeChars, List.cons_append, List.nil_append] at hdrop
      rw [List.dropWhile_cons_of_neg (by simp)] at hdrop
      rw [(List.cons.inj hdrop).2]
  | cons d cs ih =>
      rw [escapeChars, List.append_assoc] at hdrop
      rcases escapeChar_quotes d with ⟨-, hescape⟩ | hplain
      · rw [hescape, List.cons_append, List.dropWhile_cons_of_pos (by decide), List.cons_append,
          List.dropWhile_cons_of_neg (by simp), List.nil_append] at hdrop
        rw [← (List.cons.inj hdrop).2]
        exact findBlobs_escapeChars cs h
      · rw [List.dropWhile_append_of_pos fun e he => decide_eq_true (hplain e he)] at hdrop
        exact ih hdrop

theorem quotedGroup_renderString {s : String} {rest group after : List Char} (h : Follows rest)
    (hgroup : quotedGroup (renderString s ++ rest) = some (group, after)) :
    findBlobs after = findBlobs rest := by
  rw [renderString, List.cons_append] at hgroup
  dsimp only [quotedGroup] at hgroup
  split at hgroup
  · cases hgroup
  next first tail hdrop =>
    split at hgroup
    · obtain ⟨-, rfl⟩ := Prod.mk.inj (Option.some.inj hgroup)
      exact findBlobs_after_quote _ h hdrop
    · cases hgroup

/-! ## Values -/

section

variable {floats : FloatText}

theorem render_head (v : Json) :
    ∃ c text, render floats [' '] v = c :: text ∧ isSpace c = false
      ∧ (c = quote → ∃ s, v = .str s) := by
  cases hv : numberText floats v with
  | some text =>
      obtain ⟨htext, hnumber, hne⟩ := numberText_spec [' '] hv
      obtain ⟨c, text, rfl⟩ := List.exists_cons_of_ne_nil hne
      have hc := hnumber c List.mem_cons_self
      refine ⟨c, text, htext, ?_, ?_⟩
      · exact isSpace_of_numberChar hc
      · rintro rfl
        exact absurd hc (by decide)
  | none =>
      obtain ⟨rest, hrest⟩ := render_eq_lead [' '] hv
      refine ⟨lead v, rest, hrest, ?_, ?_⟩
      · cases v with
        | bool b => cases b <;> decide
        | null => decide
        | int | float => cases hv
        | str s => exact show isSpace quote = false by decide
        | arr items => exact show isSpace openBracket = false by decide
        | obj entries => exact show isSpace openBrace = false by decide
      · cases v with
        | str s => exact fun _ => ⟨s, rfl⟩
        | bool b => cases b <;> exact fun h => absurd h (by decide)
        | null => exact fun h => absurd h (by decide)
        | int | float => cases hv
        | arr items => exact fun h => absurd h (show openBracket ≠ quote by decide)
        | obj entries => exact fun h => absurd h (show openBrace ≠ quote by decide)

/-- Where a value starts the text that the pattern reads after the colon, what follows the
match has what follows the value. -/
theorem quotedGroup_render {v : Json} {rest group after : List Char} (h : Follows rest)
    (hgroup : quotedGroup (render floats [' '] v ++ rest) = some (group, after)) :
    findBlobs after = findBlobs rest ∧ findBlobs (render floats [' '] v ++ rest)
      = findBlobs rest := by
  obtain ⟨c, text, htext, -, hquote⟩ := @render_head floats v
  by_cases hc : c = quote
  · obtain ⟨s, rfl⟩ := hquote hc
    rw [render] at hgroup ⊢
    exact ⟨quotedGroup_renderString h hgroup, findBlobs_renderString s h⟩
  · rw [htext, List.cons_append] at hgroup
    dsimp only [quotedGroup] at hgroup
    split at hgroup
    · cases hgroup
    · rw [if_neg fun hboth => hc hboth.1] at hgroup
      cases hgroup

def keyed (floats : FloatText) (key : List Char) (value : Json) (rest : List Char) : List Char :=
  escapeChars key ++ (':' :: ([' '] ++ (render floats [' '] value ++ rest)))

theorem findBlobs_quote_keyed {key : List Char} {value : Json} {rest : List Char}
    (h : Follows rest) :
    findBlobs (render floats [' '] value ++ rest)
        ⊆ findBlobs (quote :: keyed floats key value rest)
      ∨ findBlobs (quote :: keyed floats key value rest)
        = findBlobs (keyed floats key value rest) := by
  cases hmatch : blobMatch (quote :: keyed floats key value rest) with
  | none => exact .inr (findBlobs_cons_of_none hmatch)
  | some found =>
      obtain ⟨group, after⟩ := found
      refine .inl ?_
      rw [findBlobs_of_some hmatch]
      rw [keyed, blobMatch_quote_escapeChars] at hmatch
      split at hmatch
      · obtain ⟨c, text, htext, hspace, -⟩ := @render_head floats value
        have hdrop : (render floats [' '] value ++ rest).dropWhile isSpace
            = render floats [' '] value ++ rest := by
          rw [htext, List.cons_append, List.dropWhile_cons_of_neg (by simp [hspace])]
        rw [List.cons_append, List.nil_append, colonGroup_colon, hdrop] at hmatch
        obtain ⟨hafter, hvalue⟩ := quotedGroup_render h hmatch
        rw [hafter, hvalue]
        exact List.subset_cons_self _ _
      · cases hmatch

theorem findBlobs_keyed (key : List Char) {value : Json} {rest : List Char} (h : Follows rest) :
    findBlobs (render floats [' '] value ++ rest) ⊆ findBlobs (keyed floats key value rest) := by
  induction key with
  | nil =>
      have hends : keyed floats [] value rest
          = quote :: ':' :: ' ' :: (render floats [' '] value ++ rest) := rfl
      rw [hends, findBlobs_quote_cons _ (by decide), findBlobs_cons _ (by decide),
        findBlobs_cons _ (by decide)]
      exact List.Subset.refl _
  | cons c key ih =>
      have hstep : keyed floats (c :: key) value rest
          = escapeChar c ++ keyed floats key value rest := by
        rw [keyed, escapeChars, List.append_assoc]
        rfl
      rw [hstep]
      rcases escapeChar_quotes c with ⟨-, hescape⟩ | hplain
      · rw [hescape, List.cons_append, findBlobs_cons _ (by decide), List.cons_append,
          List.nil_append]
        rcases findBlobs_quote_keyed h with hsubset | hskip
        · exact hsubset
        · rw [hskip]
          exact ih
      · rw [findBlobs_append _ hplain]
        exact ih

/-! ## All of it -/

theorem plain_separator : ∀ c ∈ [',', ' '], c ≠ quote := ne_quote_of_all (by decide)

theorem renderEntries_cons (separator : List Char) (key : String) (value : Json) (rest : Dict)
    (text : List Char) :
    renderEntries floats [' '] separator ((key, value) :: rest) ++ text
      = separator ++ (quote :: keyed floats key.toList value
        (renderEntries floats [' '] [',', ' '] rest ++ text)) := by
  simp [renderEntries, renderString, keyed]

theorem renderItems_cons (separator : List Char) (item : Json) (rest : List Json)
    (text : List Char) :
    renderItems floats [' '] separator (item :: rest) ++ text
      = separator ++ (render floats [' '] item
        ++ (renderItems floats [' '] [',', ' '] rest ++ text)) := by
  simp [renderItems]

theorem follows_renderItems (items : List Json) (text : List Char) :
    Follows (renderItems floats [' '] [',', ' '] items ++ text) := by
  intro c hc
  cases items with
  | nil =>
      obtain rfl : closeBracket = c := by simpa [renderItems] using hc
      exact .inr (.inl rfl)
  | cons item items =>
      obtain rfl : ',' = c := by simpa [renderItems] using hc
      exact .inl rfl

theorem follows_renderEntries (entries : Dict) (text : List Char) :
    Follows (renderEntries floats [' '] [',', ' '] entries ++ text) := by
  intro c hc
  cases entries with
  | nil =>
      obtain rfl : closeBrace = c := by simpa [renderEntries] using hc
      exact .inr (.inr rfl)
  | cons entry entries =>
      obtain ⟨key, value⟩ := entry
      obtain rfl : ',' = c := by simpa [renderEntries] using hc
      exact .inl rfl

theorem findBlobs_entry (key : List Char) {value : Json} {rest : List Char} (h : Follows rest) :
    findBlobs (render floats [' '] value ++ rest)
      ⊆ findBlobs (quote :: keyed floats key value rest) := by
  rcases findBlobs_quote_keyed h with hsubset | hskip
  · exact hsubset
  · rw [hskip]
    exact findBlobs_keyed key h

mutual

theorem findBlobs_subset_render (v : Json) (rest : List Char) (h : Follows rest) :
    findBlobs rest ⊆ findBlobs (render floats [' '] v ++ rest) := by
  cases hv : numberText floats v with
  | some text =>
      obtain ⟨htext, hnumber, -⟩ := numberText_spec [' '] hv
      rw [htext, findBlobs_append]
      · exact List.Subset.refl _
      · rintro c hc rfl
        exact absurd (hnumber _ hc) (by decide)
  | none =>
      cases v with
      | int | float => cases hv
      | null =>
          rw [render, findBlobs_append _ (ne_quote_of_all (by decide))]
          exact List.Subset.refl _
      | bool b =>
          cases b
          all_goals
            rw [render, findBlobs_append _ (ne_quote_of_all (by decide))]
            exact List.Subset.refl _
      | str s =>
          rw [render, findBlobs_renderString s h]
          exact List.Subset.refl _
      | arr items =>
          rw [render, List.cons_append, findBlobs_cons _ (by decide)]
          exact findBlobs_subset_renderItems [] (ne_quote_of_all rfl) items rest h
      | obj entries =>
          rw [render, List.cons_append, findBlobs_cons _ (by decide)]
          exact findBlobs_subset_renderEntries [] (ne_quote_of_all rfl) entries rest h

theorem findBlobs_subset_renderItems (separator : List Char) (hplain : ∀ c ∈ separator, c ≠ quote)
    (items : List Json) (rest : List Char) (h : Follows rest) :
    findBlobs rest ⊆ findBlobs (renderItems floats [' '] separator items ++ rest) := by
  cases items with
  | nil =>
      rw [renderItems, List.cons_append, findBlobs_cons _ (by decide)]
      exact List.Subset.refl _
  | cons item items =>
      rw [renderItems_cons, findBlobs_append _ hplain]
      have hitems := findBlobs_subset_renderItems [',', ' '] plain_separator items rest h
      exact List.Subset.trans hitems
        (findBlobs_subset_render item _ (follows_renderItems items rest))

theorem findBlobs_subset_renderEntries (separator : List Char)
    (hplain : ∀ c ∈ separator, c ≠ quote) (entries : Dict) (rest : List Char)
    (h : Follows rest) :
    findBlobs rest ⊆ findBlobs (renderEntries floats [' '] separator entries ++ rest) := by
  cases entries with
  | nil =>
      rw [renderEntries, List.cons_append, findBlobs_cons _ (by decide)]
      exact List.Subset.refl _
  | cons entry entries =>
      obtain ⟨key, value⟩ := entry
      rw [renderEntries_cons, findBlobs_append _ hplain]
      have hfollows := @follows_renderEntries floats entries rest
      have hentries := findBlobs_subset_renderEntries [',', ' '] plain_separator entries rest h
      exact List.Subset.trans
        (List.Subset.trans hentries (findBlobs_subset_render value _ hfollows))
        (findBlobs_entry key.toList hfollows)

end

/-- A hash that is written as it is: some characters, and none that is escaped. -/
def PlainHash (hash : String) : Prop :=
  hash ≠ "" ∧ ∀ c ∈ hash.toList, escapeChar c = [c] ∧ c ≠ quote

theorem escapeChars_plain {cs : List Char} (h : ∀ c ∈ cs, escapeChar c = [c]) :
    escapeChars cs = cs ++ [quote] := by
  induction cs with
  | nil => rfl
  | cons c cs ih =>
      rw [escapeChars, h c List.mem_cons_self, ih fun d hd => h d (List.mem_cons_of_mem _ hd)]
      rfl

theorem mem_findBlobs_reference {hash : String} (hplain : PlainHash hash) (rest : List Char) :
    hash ∈ findBlobs (render floats [' '] (.obj [("$blob", .str hash)]) ++ rest) := by
  have hchars := escapeChars_plain fun c hc => (hplain.2 c hc).1
  have hgroup : quotedGroup (renderString hash ++ (closeBrace :: rest))
      = some (hash.toList, closeBrace :: rest) := by
    have hquotes : ∀ c ∈ hash.toList, decide (c ≠ quote) = true := fun c hc =>
      decide_eq_true (hplain.2 c hc).2
    have hne : hash.toList ≠ [] := fun hnil => hplain.1 (String.toList_eq_nil_iff.mp hnil)
    have htake : (hash.toList ++ ([quote] ++ (closeBrace :: rest))).takeWhile (· ≠ quote)
        = hash.toList := by
      rw [List.takeWhile_append_of_pos hquotes, List.cons_append,
        List.takeWhile_cons_of_neg (by simp), List.append_nil]
    have hdrop : (hash.toList ++ ([quote] ++ (closeBrace :: rest))).dropWhile (· ≠ quote)
        = quote :: closeBrace :: rest := by
      rw [List.dropWhile_append_of_pos hquotes, List.cons_append,
        List.dropWhile_cons_of_neg (by simp), List.nil_append]
    rw [renderString, List.cons_append, hchars, List.append_assoc]
    simp only [quotedGroup, htake, hdrop]
    exact if_pos ⟨trivial, hne⟩
  have hmatch : blobMatch (quote :: keyed floats "$blob".toList (.str hash) (closeBrace :: rest))
      = some (hash.toList, closeBrace :: rest) := by
    have hspace : (renderString hash ++ (closeBrace :: rest)).dropWhile isSpace
        = renderString hash ++ (closeBrace :: rest) :=
      List.dropWhile_cons_of_neg (by decide)
    rw [keyed, blobMatch_quote_escapeChars, if_pos rfl, List.cons_append, List.nil_append,
      colonGroup_colon, render, hspace, hgroup]
  rw [render, List.cons_append, findBlobs_cons _ (by decide), renderEntries_cons, List.nil_append,
    renderEntries, List.cons_append, List.nil_append, findBlobs_of_some hmatch,
    String.ofList_toList]
  exact List.mem_cons_self

mutual

theorem mem_findBlobs_render (v : Json) (rest : List Char) (h : Follows rest) (hash : String)
    (hplain : PlainHash hash) (hhash : .str hash ∈ references v) :
    hash ∈ findBlobs (render floats [' '] v ++ rest) := by
  cases v with
  | arr items =>
      rw [references] at hhash
      rw [render, List.cons_append, findBlobs_cons _ (by decide)]
      exact mem_findBlobs_renderItems [] (ne_quote_of_all rfl) items rest h hash hplain hhash
  | obj entries =>
      cases hown : reference? entries with
      | some found =>
          simp only [references, hown, List.mem_singleton] at hhash
          obtain rfl := reference?_eq_some.mp hown
          rw [← hhash]
          exact mem_findBlobs_reference hplain rest
      | none =>
          simp only [references, hown] at hhash
          rw [render, List.cons_append, findBlobs_cons _ (by decide)]
          exact mem_findBlobs_renderEntries [] (ne_quote_of_all rfl) entries rest h hash hplain
            hhash
  | null | bool | int | float | str => simp [references] at hhash

theorem mem_findBlobs_renderItems (separator : List Char)
    (hseparator : ∀ c ∈ separator, c ≠ quote) (items : List Json) (rest : List Char)
    (h : Follows rest) (hash : String) (hplain : PlainHash hash)
    (hhash : .str hash ∈ referencesItems items) :
    hash ∈ findBlobs (renderItems floats [' '] separator items ++ rest) := by
  cases items with
  | nil => simp [referencesItems] at hhash
  | cons item items =>
      rw [renderItems_cons, findBlobs_append _ hseparator]
      have hfollows := @follows_renderItems floats items rest
      rw [referencesItems, List.mem_append] at hhash
      rcases hhash with hitem | hitems
      · exact mem_findBlobs_render item _ hfollows hash hplain hitem
      · exact findBlobs_subset_render item _ hfollows
          (mem_findBlobs_renderItems [',', ' '] plain_separator items rest h hash hplain hitems)

theorem mem_findBlobs_renderEntries (separator : List Char)
    (hseparator : ∀ c ∈ separator, c ≠ quote) (entries : Dict) (rest : List Char)
    (h : Follows rest) (hash : String) (hplain : PlainHash hash)
    (hhash : .str hash ∈ referencesEntries entries) :
    hash ∈ findBlobs (renderEntries floats [' '] separator entries ++ rest) := by
  cases entries with
  | nil => simp [referencesEntries] at hhash
  | cons entry entries =>
      obtain ⟨key, value⟩ := entry
      rw [renderEntries_cons, findBlobs_append _ hseparator]
      have hfollows := @follows_renderEntries floats entries rest
      refine findBlobs_entry key.toList hfollows ?_
      rw [referencesEntries, List.mem_append] at hhash
      rcases hhash with hvalue | hentries
      · exact mem_findBlobs_render value _ hfollows hash hplain hvalue
      · exact findBlobs_subset_render value _ hfollows
          (mem_findBlobs_renderEntries [',', ' '] plain_separator entries rest h hash hplain
            hentries)

end

/-! ## The marker -/

mutual

theorem marker_infix_render (v : Json) (h : references v ≠ []) :
    blobMarker <:+: render floats [' '] v := by
  cases v with
  | arr items =>
      rw [references] at h
      rw [render]
      exact (marker_infix_renderItems [] items h).trans (List.suffix_cons _ _).isInfix
  | obj entries =>
      cases hown : reference? entries with
      | some found =>
          obtain rfl := reference?_eq_some.mp hown
          have htext : render floats [' '] (.obj [("$blob", found)])
              = [openBrace] ++ blobMarker ++ (':' :: ' ' ::
                (render floats [' '] found ++ [closeBrace])) := by
            simp [render, renderEntries, renderString, blobMarker_eq]
          exact ⟨_, _, htext.symm⟩
      | none =>
          simp only [references, hown] at h
          rw [render]
          exact (marker_infix_renderEntries [] entries h).trans (List.suffix_cons _ _).isInfix
  | null | bool | int | float | str => exact absurd (by simp [references]) h

theorem marker_infix_renderItems (separator : List Char) (items : List Json)
    (h : referencesItems items ≠ []) :
    blobMarker <:+: renderItems floats [' '] separator items := by
  cases items with
  | nil => exact absurd (by simp [referencesItems]) h
  | cons item items =>
      rw [renderItems]
      refine List.IsInfix.trans ?_ (List.suffix_append _ _).isInfix
      by_cases hitem : references item = []
      · rw [referencesItems, hitem, List.nil_append] at h
        exact (marker_infix_renderItems _ items h).trans (List.suffix_append _ _).isInfix
      · exact (marker_infix_render item hitem).trans (List.prefix_append _ _).isInfix

theorem marker_infix_renderEntries (separator : List Char) (entries : Dict)
    (h : referencesEntries entries ≠ []) :
    blobMarker <:+: renderEntries floats [' '] separator entries := by
  cases entries with
  | nil => exact absurd (by simp [referencesEntries]) h
  | cons entry entries =>
      obtain ⟨key, value⟩ := entry
      rw [renderEntries]
      refine List.IsInfix.trans ?_ (List.suffix_append _ _).isInfix
      refine List.IsInfix.trans ?_ (List.suffix_append _ _).isInfix
      refine List.IsInfix.trans ?_ (List.suffix_cons _ _).isInfix
      refine List.IsInfix.trans ?_ (List.suffix_append _ _).isInfix
      by_cases hvalue : references value = []
      · rw [referencesEntries, hvalue, List.nil_append] at h
        exact (marker_infix_renderEntries _ entries h).trans (List.suffix_append _ _).isInfix
      · exact (marker_infix_render value hvalue).trans (List.prefix_append _ _).isInfix

end

end

end Navi.Trace
