/-
Places of a text. Every place that reading comes to is the beginning of the text moved forward by some characters, so
the number of characters before it tells the place, and its bytes or its line and column tell it just as well. The
text between two places of a text is the slice of the text over the stretch between them.
-/
import LuaAtlas.Syntax.Place
import Mathlib

namespace LuaAtlas

/-! ## Reading order -/

namespace Position

theorem le_iff {a b : Position} : a ≤ b ↔ a.line < b.line ∨ a.line = b.line ∧ a.column ≤ b.column := Iff.rfl

instance : LinearOrder Position where
  le_refl a := Or.inr ⟨rfl, le_rfl⟩
  le_trans a b c hab hbc := by
    rw [le_iff] at *
    omega
  le_antisymm a b hab hba := by
    rw [le_iff] at hab hba
    obtain ⟨line, column⟩ := a
    obtain ⟨line', column'⟩ := b
    simp only [mk.injEq] at hab hba ⊢
    omega
  le_total a b := by
    rw [le_iff, le_iff]
    omega
  toDecidableLE := inferInstance

theorem origin_le (p : Position) : origin ≤ p := by
  show 0 < p.line ∨ 0 = p.line ∧ 0 ≤ p.column
  omega

theorem line_le {a b : Position} (h : a ≤ b) : a.line ≤ b.line := by
  rw [le_iff] at h
  omega

theorem lt_next (p : Position) (c : Char) : p < p.next c := by
  rw [← not_le, le_iff]
  have hsize := c.utf8Size_pos
  unfold next
  split <;> simp only <;> omega

theorem advance_cons (p : Position) (c : Char) (cs : List Char) : p.advance (c :: cs) = (p.next c).advance cs := rfl

theorem advance_append (p : Position) (cs ds : List Char) : p.advance (cs ++ ds) = (p.advance cs).advance ds :=
  List.foldl_append

theorem le_advance : ∀ (cs : List Char) (p : Position), p ≤ p.advance cs
  | [], _ => le_rfl
  | c :: cs, p => (lt_next p c).le.trans (le_advance cs (p.next c))

theorem lt_advance {cs : List Char} (h : cs ≠ []) (p : Position) : p < p.advance cs := by
  cases cs with
  | nil => exact absurd rfl h
  | cons c cs => exact (lt_next p c).trans_le (le_advance cs (p.next c))

/-- Behind characters of one byte on one line. -/
theorem advance_of_single : ∀ (cs : List Char) (p : Position), (∀ c ∈ cs, c ≠ '\n' ∧ c.utf8Size = 1) →
    p.advance cs = ⟨p.line, p.column + cs.length⟩
  | [], _, _ => rfl
  | c :: cs, p, h => by
    obtain ⟨hbreak, hsize⟩ := h c (List.mem_cons_self ..)
    rw [advance_cons, advance_of_single cs _ fun d hd => h d (List.mem_cons_of_mem _ hd), next, if_neg hbreak, hsize,
      List.length_cons, Nat.add_assoc, Nat.add_comm 1]

end Position

/-! ## The slice of a text over a range -/

/-- The characters of a text that stand in a range; `p` is the position of the first. -/
def sliceFrom (r : Range) : Position → List Char → List Char
  | _, [] => []
  | p, c :: cs => if r.start ≤ p ∧ p < r.stop then c :: sliceFrom r (p.next c) cs else sliceFrom r (p.next c) cs

/-- The characters of a text that stand in a range. -/
def slice (text : List Char) (r : Range) : String := String.ofList (sliceFrom r .origin text)

namespace Syntax.Place

/-! ## Places by number -/

/-- The place behind the first `i` characters of a text. -/
def nth (text : List Char) (i : Nat) : Place :=
  ⟨i, ((text.take i).map Char.utf8Size).sum, Position.origin.advance (text.take i), text.drop i⟩

/-- A place of the given text. -/
def IsIn (text : List Char) (p : Place) : Prop := p.index ≤ text.length ∧ p = nth text p.index

variable {text : List Char} {p q r : Place}

theorem isIn_nth {i : Nat} (h : i ≤ text.length) : (nth text i).IsIn text := ⟨h, rfl⟩

theorem isIn_ofText (source : String) : (ofText source).IsIn source.toList := by
  refine ⟨Nat.zero_le _, ?_⟩
  simp [ofText, nth, Position.advance]

theorem next_nth {i : Nat} (h : i < text.length) : (nth text i).next = nth text (i + 1) := by
  have htake : text.take (i + 1) = text.take i ++ [text[i]] := List.take_succ_eq_append_getElem h
  unfold nth next
  rw [List.drop_eq_getElem_cons h, htake, Position.advance_append, List.map_append, List.sum_append]
  rfl

theorem next_nth_length : (nth text text.length).next = nth text text.length := by
  unfold nth next
  simp

namespace IsIn

theorem rest_eq (h : p.IsIn text) : p.rest = text.drop p.index := by
  rw [h.2]
  rfl

theorem next (h : p.IsIn text) : p.next.IsIn text := by
  rw [h.2]
  rcases h.1.eq_or_lt with heq | hlt
  · rw [heq, next_nth_length]
    exact isIn_nth le_rfl
  · rw [next_nth hlt]
    exact isIn_nth hlt

theorem skip : ∀ (n : Nat) {p : Place}, p.IsIn text → (p.skip n).IsIn text
  | 0, _, h => h
  | n + 1, _, h => skip n h.next

theorem eq_of_index (hp : p.IsIn text) (hq : q.IsIn text) (h : p.index = q.index) : p = q := by
  rw [hp.2, hq.2, h]

/-- The text before the later of two places. -/
theorem take_eq (hq : q.IsIn text) (h : p.index ≤ q.index) :
    text.take q.index = text.take p.index ++ (text.drop p.index).take (q.index - p.index) ∧
      (p.index < q.index → (text.drop p.index).take (q.index - p.index) ≠ []) := by
  have hlength := hq.1
  constructor
  · rw [← List.take_add, Nat.add_sub_of_le h]
  · intro hlt hnil
    have := congrArg List.length hnil
    simp only [List.length_take, List.length_drop, List.length_nil] at this
    omega

theorem position_lt (hp : p.IsIn text) (hq : q.IsIn text) (h : p.index < q.index) : p.position < q.position := by
  obtain ⟨htake, hne⟩ := take_eq hq h.le
  rw [hp.2, hq.2]
  show Position.origin.advance (text.take p.index) < Position.origin.advance (text.take q.index)
  rw [htake, Position.advance_append]
  exact Position.lt_advance (hne h) _

theorem position_le (hp : p.IsIn text) (hq : q.IsIn text) (h : p.index ≤ q.index) : p.position ≤ q.position := by
  rcases h.eq_or_lt with heq | hlt
  · rw [eq_of_index hp hq heq]
  · exact (position_lt hp hq hlt).le

theorem position_le_iff (hp : p.IsIn text) (hq : q.IsIn text) : p.position ≤ q.position ↔ p.index ≤ q.index := by
  refine ⟨fun h => ?_, position_le hp hq⟩
  by_contra hlt
  exact absurd h (position_lt hq hp (Nat.lt_of_not_le hlt)).not_ge

theorem byte_lt (hp : p.IsIn text) (hq : q.IsIn text) (h : p.index < q.index) : p.byte < q.byte := by
  obtain ⟨htake, hne⟩ := take_eq hq h.le
  rw [hp.2, hq.2]
  show ((text.take p.index).map Char.utf8Size).sum < ((text.take q.index).map Char.utf8Size).sum
  rw [htake, List.map_append, List.sum_append]
  cases hcs : (text.drop p.index).take (q.index - p.index) with
  | nil => exact absurd hcs (hne h)
  | cons c cs =>
    have hsize := c.utf8Size_pos
    rw [List.map_cons, List.sum_cons]
    omega

/-- The bytes before a place tell the place. -/
theorem eq_of_byte (hp : p.IsIn text) (hq : q.IsIn text) (h : p.byte = q.byte) : p = q := by
  refine eq_of_index hp hq ?_
  by_contra hne
  rcases Nat.lt_or_gt_of_ne hne with hlt | hlt
  · exact absurd h (byte_lt hp hq hlt).ne
  · exact absurd h (byte_lt hq hp hlt).ne'

end IsIn

/-! ## Going forward -/

theorem index_le_next (p : Place) : p.index ≤ p.next.index := by
  unfold next
  split <;> simp

theorem index_lt_next (h : p.rest ≠ []) : p.index < p.next.index := by
  unfold next
  split
  · exact absurd ‹_› h
  · simp

theorem index_le_skip : ∀ (n : Nat) (p : Place), p.index ≤ (p.skip n).index
  | 0, _ => le_rfl
  | n + 1, p => (index_le_next p).trans (index_le_skip n p.next)

theorem index_lt_skip {n : Nat} (hn : n ≠ 0) (h : p.rest ≠ []) : p.index < (p.skip n).index := by
  cases n with
  | zero => exact absurd rfl hn
  | succ n => exact (index_lt_next h).trans_le (index_le_skip n p.next)

theorem next_of_rest {c : Char} {cs : List Char} (h : p.rest = c :: cs) :
    p.next = ⟨p.index + 1, p.byte + c.utf8Size, p.position.next c, cs⟩ := by
  unfold next
  rw [h]

theorem skip_append : ∀ (cs : List Char) {ds : List Char} {p : Place}, p.rest = cs ++ ds →
    (p.skip cs.length).rest = ds ∧ (p.skip cs.length).index = p.index + cs.length
  | [], _, _, h => ⟨h, rfl⟩
  | c :: cs, ds, p, h => by
    have hnext := next_of_rest (h : p.rest = c :: (cs ++ ds))
    have hnextRest : p.next.rest = cs ++ ds := congrArg rest hnext
    have hnextIndex : p.next.index = p.index + 1 := by rw [hnext]
    obtain ⟨hrest, hindex⟩ := skip_append cs hnextRest
    refine ⟨hrest, ?_⟩
    show (p.next.skip cs.length).index = p.index + (cs.length + 1)
    omega

/-! ## The text between two places -/

/-- The text from a place that is followed by `cs` to the place behind it. -/
theorem textTo_skip {cs ds : List Char} (h : p.rest = cs ++ ds) :
    p.textTo (p.skip cs.length) = String.ofList cs := by
  unfold textTo
  rw [(skip_append cs h).2, Nat.add_sub_cancel_left, h, List.take_left]

theorem textTo_append (hp : p.IsIn text) (hq : q.IsIn text) (hpq : p.index ≤ q.index) (hqr : q.index ≤ r.index) :
    p.textTo r = p.textTo q ++ q.textTo r := by
  have hsplit : r.index - p.index = (q.index - p.index) + (r.index - q.index) := by omega
  unfold textTo
  rw [hp.rest_eq, hq.rest_eq, hsplit, List.take_add, List.drop_drop, Nat.add_sub_of_le hpq, String.ofList_append]

theorem sliceFrom_drop {i j : Nat} (hi : i ≤ text.length) (hj : j ≤ text.length) : ∀ (n k : Nat), k + n = text.length →
    sliceFrom ((nth text i).rangeTo (nth text j)) (nth text k).position (text.drop k) = (text.take j).drop (max i k)
  | 0, k, hk => by
    rw [List.drop_eq_nil_of_le (by omega), List.drop_eq_nil_of_le (by rw [List.length_take]; omega)]
    rfl
  | n + 1, k, hk => by
    have hlt : k < text.length := by omega
    have hstart : (nth text i).position ≤ (nth text k).position ↔ i ≤ k :=
      (isIn_nth hi).position_le_iff (isIn_nth hlt.le)
    have hstop : (nth text k).position < (nth text j).position ↔ k < j := by
      rw [← not_le, (isIn_nth hj).position_le_iff (isIn_nth hlt.le)]
      exact Nat.not_le
    have hnext : (nth text k).position.next text[k] = (nth text (k + 1)).position := by
      rw [← next_nth hlt, next_of_rest (List.drop_eq_getElem_cons hlt : (nth text k).rest = _)]
    rw [List.drop_eq_getElem_cons hlt, sliceFrom, hnext, sliceFrom_drop hi hj n (k + 1) (by omega)]
    have hin : ((nth text i).rangeTo (nth text j)).start ≤ (nth text k).position ∧
        (nth text k).position < ((nth text i).rangeTo (nth text j)).stop ↔ i ≤ k ∧ k < j := and_congr hstart hstop
    split
    · rename_i h
      have hin := hin.1 h
      rw [Nat.max_eq_right hin.1, Nat.max_eq_right (by omega),
        List.drop_eq_getElem_cons (i := k) (by rw [List.length_take]; omega), List.getElem_take]
    · rename_i h
      have hout := mt hin.2 h
      rcases Nat.lt_or_ge k i with hki | hik
      · rw [Nat.max_eq_left hki.le, Nat.max_eq_left hki]
      · rw [List.drop_eq_nil_of_le, List.drop_eq_nil_of_le]
        · rw [List.length_take]
          omega
        · rw [List.length_take]
          omega

/-- The text between two places is the slice over the stretch between them. -/
theorem slice_rangeTo (hp : p.IsIn text) (hq : q.IsIn text) : slice text (p.rangeTo q) = p.textTo q := by
  have hslice := sliceFrom_drop hp.1 hq.1 text.length 0 (Nat.zero_add _)
  rw [← hp.2, ← hq.2, List.drop_zero, Nat.max_zero] at hslice
  unfold slice textTo
  rw [hp.rest_eq, ← List.drop_take]
  exact congrArg String.ofList hslice

end Syntax.Place

end LuaAtlas
