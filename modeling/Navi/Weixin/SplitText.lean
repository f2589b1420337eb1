import Mathlib
import Navi.Base.Dict
import Navi.Evolution.SkillContract

/-!
# The chunks of a message

A text is sent as it is, line by line where it has two or three short ones, or in chunks that
break at blank lines where they can. Nothing but white space is lost.
-/

namespace Navi.Weixin

open Navi.Base
open Navi.Evolution (isLineBreak splitLines)

/-! ## The text -/

/-- The characters of a text that are not white space. -/
def visible (text : List Char) : List Char := text.filter fun c => !isSpace c

/-- `text.strip()`. -/
def stripText (text : List Char) : List Char := (text.dropWhile isSpace).rdropWhile isSpace

/-- `text.splitlines()`. -/
def lineTexts (text : List Char) : List (List Char) :=
  (splitLines [] text).map (·.rdropWhile isLineBreak)

/-- `text.split("\n\n")`, with what has been read of the first block in reverse. -/
def splitBlocks (block : List Char) : List Char → List (List Char)
  | [] => [block.reverse]
  | '\n' :: '\n' :: rest => block.reverse :: splitBlocks [] rest
  | c :: rest => splitBlocks (c :: block) rest

@[simp] theorem visible_append (a b : List Char) : visible (a ++ b) = visible a ++ visible b :=
  List.filter_append ..

theorem visible_eq_nil_iff {text : List Char} :
    visible text = [] ↔ ∀ c ∈ text, isSpace c = true := by
  simp [visible, List.filter_eq_nil_iff]

theorem visible_dropWhile (text : List Char) :
    visible (text.dropWhile isSpace) = visible text := by
  induction text with
  | nil => rfl
  | cons c rest ih =>
      rw [List.dropWhile_cons]
      split
      next h => simpa [visible, h] using ih
      next h => rfl

theorem visible_rdropWhile {p : Char → Bool} (hp : ∀ c, p c = true → isSpace c = true)
    (text : List Char) : visible (text.rdropWhile p) = visible text := by
  induction text using List.reverseRecOn with
  | nil => rfl
  | append_singleton rest c ih =>
      rw [List.rdropWhile_concat]
      split
      next h =>
        have hblank : visible [c] = [] := visible_eq_nil_iff.mpr (by simpa using hp c h)
        rw [ih, visible_append, hblank, List.append_nil]
      next h => rfl

@[simp] theorem visible_stripText (text : List Char) : visible (stripText text) = visible text :=
  (visible_rdropWhile (fun _ h => h) _).trans (visible_dropWhile text)

theorem length_stripText_le (text : List Char) : (stripText text).length ≤ text.length :=
  (List.rdropWhile_prefix _ _).length_le.trans (List.dropWhile_suffix _).length_le

theorem stripText_eq_nil_iff {text : List Char} : stripText text = [] ↔ visible text = [] := by
  constructor
  · intro h
    rw [← visible_stripText, h]
    rfl
  · intro h
    have hall := visible_eq_nil_iff.mp h
    have hdrop : text.dropWhile isSpace = [] := List.dropWhile_eq_nil_iff.mpr hall
    rw [stripText, hdrop]
    rfl

/-! ## Lines and blocks -/

theorem isSpace_of_isLineBreak (c : Char) (h : isLineBreak c = true) : isSpace c = true := by
  unfold isLineBreak at h
  unfold isSpace
  generalize c.toNat = n at h ⊢
  simp only [List.mem_cons, List.not_mem_nil, or_false, decide_eq_true_eq] at h
  rcases h with rfl | rfl | rfl | rfl | rfl | rfl | rfl | rfl | rfl | rfl <;> decide

theorem flatten_splitLines (line text : List Char) :
    (splitLines line text).flatten = line.reverse ++ text := by
  fun_induction splitLines line text with
  | case1 => simp
  | case2 line h => simp
  | case3 line rest ih => simp [ih]
  | case4 line c rest _ h ih => simp [ih]
  | case5 line c rest _ h ih => simp [ih]

theorem visible_lineTexts (text : List Char) :
    (lineTexts text).flatMap visible = visible text := by
  have hlines : (lineTexts text).flatMap visible = (splitLines [] text).flatMap visible := by
    rw [lineTexts, List.flatMap_map]
    exact List.flatMap_congr fun line _ => visible_rdropWhile isSpace_of_isLineBreak line
  have hflat : (splitLines [] text).flatMap visible = visible (splitLines [] text).flatten := by
    unfold visible
    rw [List.filter_flatten, List.flatMap_def]
  rw [hlines, hflat, flatten_splitLines]
  rfl

theorem visible_splitBlocks (block text : List Char) :
    (splitBlocks block text).flatMap visible = visible block.reverse ++ visible text := by
  fun_induction splitBlocks block text with
  | case1 block => simp [visible]
  | case2 block rest ih =>
      rw [List.flatMap_cons, ih]
      rfl
  | case3 block c rest _ ih =>
      rw [ih, List.reverse_cons, visible_append, List.append_assoc, ← visible_append]
      rfl

/-! ## Chunks -/

/-- `max_length`. -/
abbrev MaxLength := {n : Nat // 0 < n}

/-- The pieces that are cut off a block, and what is left of it. -/
def cutBlock (maxLength : MaxLength) (block : List Char) : List (List Char) × List Char :=
  if maxLength.1 < block.length then
    let (pieces, left) := cutBlock maxLength (block.drop maxLength.1)
    (block.take maxLength.1 :: pieces, left)
  else ([], block)
termination_by block.length
decreasing_by
  rw [List.length_drop]
  have := maxLength.2
  omega

/-- The chunks so far and the text of the next one. -/
structure Chunking where
  chunks : List (List Char)
  current : List Char

/-- `"\n\n".join(part for part in (current, block) if part)`. -/
def joinParts (current block : List Char) : List Char :=
  ['\n', '\n'].intercalate ([current, block].filter (· ≠ []))

/-- The current text as a chunk of its own, where it is not empty. -/
def Chunking.flush (s : Chunking) : List (List Char) :=
  if s.current = [] then s.chunks else s.chunks ++ [s.current]

def Chunking.addBlock (maxLength : MaxLength) (s : Chunking) (block : List Char) : Chunking :=
  let candidate := joinParts s.current block
  if candidate.length ≤ maxLength.1 then { s with current := candidate }
  else
    let (pieces, left) := cutBlock maxLength block
    ⟨s.flush ++ pieces, left⟩

/-- A line that may be sent as a message of its own. -/
def plainLine (line : List Char) : Bool :=
  stripText line ≠ [] ∧ ¬ ['#'] <+: line ∧ ¬ ['-'] <+: line ∧ ¬ ['|'] <+: line
    ∧ ¬ ['\u0060', '\u0060', '\u0060'] <+: line

/-- `split_text_for_weixin`. -/
def splitTextForWeixin (maxLength : MaxLength) (text : List Char) : List (List Char) :=
  if stripText text = [] then []
  else
    let content := stripText text
    if content.length ≤ maxLength.1 then
      let lines := lineTexts content
      if 1 < lines.length ∧ lines.length ≤ 3 ∧ lines.all plainLine then lines.map stripText
      else [content]
    else
      ((splitBlocks [] content).foldl (Chunking.addBlock maxLength) ⟨[], []⟩).flush.filter
        fun chunk => stripText chunk ≠ []

section

variable {maxLength : MaxLength} {block text : List Char} {s : Chunking}

theorem cutBlock_spec (maxLength : MaxLength) (block : List Char) :
    (cutBlock maxLength block).1.flatten ++ (cutBlock maxLength block).2 = block
      ∧ (∀ piece ∈ (cutBlock maxLength block).1, piece.length ≤ maxLength.1)
      ∧ (cutBlock maxLength block).2.length ≤ maxLength.1 := by
  fun_induction cutBlock maxLength block with
  | case1 block h pieces left hcut ih =>
      rw [hcut] at ih
      obtain ⟨hflat, hpieces, hleft⟩ := ih
      refine ⟨?_, ?_, hleft⟩
      · rw [List.flatten_cons, List.append_assoc, hflat, List.take_append_drop]
      · rw [List.forall_mem_cons]
        exact ⟨List.length_take_le _ _, hpieces⟩
  | case2 block h => exact ⟨rfl, by simp, Nat.le_of_not_lt h⟩

theorem visible_joinParts (current block : List Char) :
    visible (joinParts current block) = visible current ++ visible block := by
  cases current with
  | nil => cases block <;> simp [joinParts, visible]
  | cons c current =>
      cases block with
      | nil => simp [joinParts, visible]
      | cons d block =>
          have hjoin : joinParts (c :: current) (d :: block)
              = (c :: current) ++ ['\n', '\n'] ++ (d :: block) := by
            simp [joinParts]
          have hblank : visible ['\n', '\n'] = [] := by decide
          rw [hjoin, visible_append, visible_append, hblank, List.append_nil]

@[simp] theorem visible_flush (s : Chunking) :
    s.flush.flatMap visible = s.chunks.flatMap visible ++ visible s.current := by
  unfold Chunking.flush
  split
  next h => simp [h, visible]
  next h => simp

structure Chunking.Bounded (maxLength : MaxLength) (s : Chunking) : Prop where
  chunks : ∀ chunk ∈ s.chunks, chunk.length ≤ maxLength.1
  current : s.current.length ≤ maxLength.1

theorem Chunking.Bounded.flush (h : s.Bounded maxLength) :
    ∀ chunk ∈ s.flush, chunk.length ≤ maxLength.1 := by
  unfold Chunking.flush
  split
  next => exact h.chunks
  next =>
    intro chunk hchunk
    rcases List.mem_append.mp hchunk with hold | hnew
    · exact h.chunks chunk hold
    · rw [List.mem_singleton.mp hnew]
      exact h.current

theorem addBlock_spec (h : s.Bounded maxLength) (block : List Char) :
    (s.addBlock maxLength block).Bounded maxLength
      ∧ (s.addBlock maxLength block).flush.flatMap visible
        = s.flush.flatMap visible ++ visible block := by
  unfold Chunking.addBlock
  dsimp only
  split
  next hfits =>
    refine ⟨⟨h.chunks, hfits⟩, ?_⟩
    rw [visible_flush, visible_flush, visible_joinParts, List.append_assoc]
  next hlong =>
    obtain ⟨hflat, hpieces, hleft⟩ := cutBlock_spec maxLength block
    refine ⟨⟨fun chunk hchunk => ?_, hleft⟩, ?_⟩
    · rcases List.mem_append.mp hchunk with hold | hnew
      · exact h.flush chunk hold
      · exact hpieces chunk hnew
    · have hblock : (cutBlock maxLength block).1.flatMap visible
          ++ visible (cutBlock maxLength block).2 = visible block := by
        have hpiecesFlat : (cutBlock maxLength block).1.flatMap visible
            = visible (cutBlock maxLength block).1.flatten := by
          unfold visible
          rw [List.filter_flatten, List.flatMap_def]
        rw [hpiecesFlat, ← visible_append, hflat]
      rw [visible_flush, List.flatMap_append, List.append_assoc, hblock]

theorem foldl_addBlock_spec (h : s.Bounded maxLength) (blocks : List (List Char)) :
    (blocks.foldl (Chunking.addBlock maxLength) s).Bounded maxLength
      ∧ (blocks.foldl (Chunking.addBlock maxLength) s).flush.flatMap visible
        = s.flush.flatMap visible ++ blocks.flatMap visible := by
  induction blocks generalizing s with
  | nil => exact ⟨h, by simp⟩
  | cons block rest ih =>
      obtain ⟨hbounded, hvisible⟩ := addBlock_spec h block
      obtain ⟨hrest, hrestVisible⟩ := ih hbounded
      refine ⟨hrest, ?_⟩
      rw [List.foldl_cons, hrestVisible, hvisible, List.flatMap_cons, List.append_assoc]

theorem flatMap_visible_filter (chunks : List (List Char)) :
    (chunks.filter fun chunk => stripText chunk ≠ []).flatMap visible
      = chunks.flatMap visible := by
  induction chunks with
  | nil => rfl
  | cons chunk rest ih =>
      by_cases hblank : stripText chunk = []
      · rw [List.filter_cons_of_neg (by simpa using hblank), ih, List.flatMap_cons,
          stripText_eq_nil_iff.mp hblank, List.nil_append]
      · rw [List.filter_cons_of_pos (by simpa using hblank), List.flatMap_cons, ih,
          List.flatMap_cons]

theorem length_le_of_mem_lineTexts {line : List Char} (h : line ∈ lineTexts text) :
    line.length ≤ text.length := by
  obtain ⟨whole, hwhole, rfl⟩ := List.mem_map.mp h
  have hflat : (splitLines [] text).flatten = text := flatten_splitLines [] text
  have hle := (List.sublist_flatten_of_mem hwhole).length_le
  rw [hflat] at hle
  exact (List.rdropWhile_prefix _ _).length_le.trans hle

end

/-- **Splitting loses nothing**: the chunks are not blank and not too long, and what is not white
space in them is what is not white space in the text. -/
theorem splitTextForWeixin_lossless (maxLength : MaxLength) (text : List Char) :
    (∀ chunk ∈ splitTextForWeixin maxLength text,
        stripText chunk ≠ [] ∧ chunk.length ≤ maxLength.1)
      ∧ (splitTextForWeixin maxLength text).flatMap visible = visible text := by
  unfold splitTextForWeixin
  split
  next hblank => exact ⟨by simp, (stripText_eq_nil_iff.mp hblank).symm⟩
  next hblank =>
    dsimp only
    split
    next hshort =>
      split
      next hlines =>
        obtain ⟨-, -, hplain⟩ := hlines
        constructor
        · intro chunk hchunk
          obtain ⟨line, hline, rfl⟩ := List.mem_map.mp hchunk
          have hnonblank := List.all_eq_true.mp hplain line hline
          simp only [plainLine, decide_eq_true_eq] at hnonblank
          refine ⟨?_, (length_stripText_le line).trans
            ((length_le_of_mem_lineTexts hline).trans hshort)⟩
          rw [ne_eq, stripText_eq_nil_iff, visible_stripText, ← stripText_eq_nil_iff]
          exact hnonblank.1
        · rw [List.flatMap_map]
          simp only [visible_stripText]
          rw [visible_lineTexts, visible_stripText]
      next =>
        constructor
        · intro chunk hchunk
          rw [List.mem_singleton.mp hchunk]
          refine ⟨?_, hshort⟩
          rwa [ne_eq, stripText_eq_nil_iff, visible_stripText, ← stripText_eq_nil_iff]
        · simp
    next =>
      have hstart : (⟨[], []⟩ : Chunking).Bounded maxLength := ⟨by simp, by simp⟩
      obtain ⟨hbounded, hvisible⟩ :=
        foldl_addBlock_spec hstart (splitBlocks [] (stripText text))
      constructor
      · intro chunk hchunk
        obtain ⟨hmem, hnonblank⟩ := List.mem_filter.mp hchunk
        exact ⟨by simpa using hnonblank, hbounded.flush chunk hmem⟩
      · rw [flatMap_visible_filter, hvisible, visible_splitBlocks, visible_stripText]
        rfl

end Navi.Weixin
