/-
Identifiers are words. A token that is read as a name was found as a word, spells a keyword, or was supplied and has
no text at all; so no identifier of any text has a dot, a bracket or a colon in it, whatever repairs the text needs.
-/
import Mathlib.Data.List.TakeWhile
import LuaAtlas.Proofs.Syntax.Chain
import LuaAtlas.Proofs.Syntax.Meaning

namespace LuaAtlas.Syntax

open Lexeme

/-- A text of word characters only. -/
def IsWord (text : String) : Prop := ∀ c ∈ text.toList, isWordChar c = true

/-! ## Words in a text -/

theorem isWordChar_of_mem_take {c : Char} : ∀ {cs : List Char} {n : Nat}, n ≤ wordLength cs → c ∈ cs.take n →
    isWordChar c = true
  | [], n, _, h => by simp at h
  | d :: cs, n, hn, h => by
    rw [wordLength] at hn
    by_cases hstart : isWordStart d = true
    · rw [if_pos hstart] at hn
      have hd : isWordChar d = true := (Bool.and_eq_true_iff.1 hstart).1
      have hword : (d :: cs).takeWhile isWordChar = d :: cs.takeWhile isWordChar := List.takeWhile_cons_of_pos hd
      have hle : n ≤ ((d :: cs).takeWhile isWordChar).length := by
        rw [hword, List.length_cons]
        unfold run at hn
        omega
      obtain ⟨rest, hrest⟩ := List.takeWhile_prefix isWordChar (l := d :: cs)
      rw [← hrest, List.take_append_of_le_length hle] at h
      exact List.mem_takeWhile_imp (List.mem_of_mem_take h)
    · rw [if_neg hstart] at hn
      obtain rfl : n = 0 := by omega
      cases h

theorem index_next_le (p : Place) : p.next.index ≤ p.index + 1 := by
  unfold Place.next
  split <;> simp

theorem index_skip_le : ∀ (n : Nat) (p : Place), (p.skip n).index ≤ p.index + n
  | 0, p => by simp [Place.skip]
  | n + 1, p => by
    have hskip := index_skip_le n p.next
    have hnext := index_next_le p
    rw [Place.skip]
    omega

/-- The word at a place. -/
theorem isWord_skip {p : Place} {n : Nat} (h : n ≤ wordLength p.rest) : IsWord (p.textTo (p.skip n)) := by
  intro c hc
  unfold Place.textTo at hc
  rw [String.toList_ofList] at hc
  refine isWordChar_of_mem_take ?_ hc
  have hskip := index_skip_le n p
  omega

/-! ## Tokens that are found -/

/-- The longest of some terminals has its own length. -/
theorem length_of_longest? {ts : List Terminal} {cs : List Char} {t : Terminal} {n : Nat}
    (h : longest? ts cs = some (t, n)) : n = length t cs := by
  have hfold : ∀ b ∈ longest? ts cs, b.2 = length b.1 cs := by
    unfold longest?
    refine List.foldlRecOn (motive := fun best? : Option (Terminal × Nat) => ∀ b ∈ best?, b.2 = length b.1 cs) _ _
      (by simp) fun best? hbest t _ => ?_
    dsimp only
    split
    · intro b hb
      cases hb
      rfl
    · exact hbest
  exact hfold (t, n) h

/-- What is found as a name is a word. -/
def Found.Names (f : Found) : Prop := f.terminal = .name → IsWord (f.start.textTo f.stop)

theorem found_names_of_ne {t : Terminal} (h : t ≠ .name) {start stop : Place} : Found.Names ⟨t, start, stop⟩ :=
  fun hname => absurd hname h

theorem scanEscape_names {p : Place} {f : Found} (h : scanEscape p = .ok f) : Found.Names f := by
  unfold scanEscape at h
  split at h
  · cases h
    exact found_names_of_ne (by decide)
  · cases h

theorem scanQuoted_names {mark text : Terminal} (hmark : mark ≠ .name) (htext : text ≠ .name) {quote : Char} {p : Place}
    {f : Found} (h : scanQuoted mark text quote p = .ok f) : Found.Names f := by
  unfold scanQuoted at h
  dsimp only at h
  split at h
  · cases h
    exact found_names_of_ne htext
  · split at h
    · cases h
      exact found_names_of_ne hmark
    · exact scanEscape_names h

theorem scanRemark_names (p : Place) : Found.Names (scanRemark p) := by
  unfold scanRemark
  dsimp only
  split <;> exact found_names_of_ne (by decide)

theorem scanOpen_names {mode : Mode} {p : Place} {f : Found} (h : scanOpen mode p = .ok f) : Found.Names f := by
  unfold scanOpen at h
  dsimp only at h
  split at h
  · cases h
    exact found_names_of_ne (by decide)
  · split at h
    · rename_i t n hlongest
      cases h
      intro hname
      obtain rfl : t = .name := hname
      exact isWord_skip (length_of_longest? hlongest).le
    · split at h
      · exact scanEscape_names h
      · cases h

theorem scan_names {mode : Mode} {p : Place} {f : Found} (h : scan mode p = .ok f) : Found.Names f := by
  unfold scan at h
  split at h
  · exact scanQuoted_names (by decide) (by decide) h
  · exact scanQuoted_names (by decide) (by decide) h
  · cases h
    exact scanRemark_names _
  · exact scanOpen_names h

theorem longOpening_names {isWanted : Terminal → Bool} {start p : Place} {f : Found} {level : Nat}
    (h : LongBracket.opening isWanted start p = some (f, level)) : Found.Names f := by
  unfold LongBracket.opening at h
  split at h
  · cases h
    exact found_names_of_ne (by decide)
  · split at h
    · split at h
      · cases h
        exact found_names_of_ne (by decide)
      · cases h
    · cases h

theorem longBody_names {t : Terminal} (ht : t ≠ .name) {level after : Nat} {start p : Place} {f : Found}
    (h : (LongBracket.body t level start p).map (·, level) = some (f, after)) : Found.Names f := by
  unfold LongBracket.body at h
  rw [Option.map_map] at h
  obtain ⟨n, -, hn⟩ := Option.map_eq_some_iff.1 h
  cases hn
  exact found_names_of_ne ht

theorem longScan_names {isWanted : Terminal → Bool} {level after : Nat} {p : Place} {f : Found}
    (h : LongBracket.scan isWanted level p = some (f, after)) : Found.Names f := by
  unfold LongBracket.scan at h
  split at h
  · cases h
    exact found_names_of_ne (by decide)
  · split at h
    · exact longBody_names (by decide) h
    · split at h
      · cases h
        exact found_names_of_ne (by decide)
      · split at h
        · exact longBody_names (by decide) h
        · exact longOpening_names h

theorem look_names {s : Stack} {v mode level after : Nat} {p : Place} {f : Found} {after? : Option Nat}
    (h : Reader.look s v mode level p = (.ok (f, after?), after)) : Found.Names f := by
  unfold Reader.look at h
  split at h
  · rename_i found _ _ hlong
    cases h
    unfold Reader.lookLong at hlong
    dsimp only at hlong
    split at hlong
    · cases hlong
    · rename_i hscan
      split at hlong
      · cases hlong
      · cases hlong
        exact longScan_names hscan
  · rename_i level' _
    obtain ⟨hmap, -⟩ := Prod.mk.inj h
    cases hscan : scan ((Automaton.row mode).mode?.getD .general) p with
    | error _ =>
      rw [hscan] at hmap
      cases hmap
    | ok found =>
      rw [hscan] at hmap
      cases hmap
      exact scan_names hscan

/-! ## Tokens of a text -/

theorem token_names (s : Stack) (v level : Nat) : (Reader.token s v level).1.Names fun x => IsWord x.name := by
  have hmake : ∀ {found : Found} {word : Terminal}, Found.Names found →
      (if found.terminal = .name then word else found.terminal) = Terminal.name →
      IsWord (found.start.textTo found.stop) := by
    intro found word hfound hterminal
    by_cases hname : found.terminal = .name
    · exact hfound hname
    · rw [if_neg hname] at hterminal
      exact absurd hterminal hname
  unfold Reader.token
  dsimp only
  split
  · rename_i hlook
    exact fun hname => hmake (look_names hlook) (Option.some.inj hname)
  · split
    · rename_i hlook
      exact fun hname => hmake (look_names hlook) (Option.some.inj hname)
    · intro hname
      cases hname

theorem isWord_of_keyword? {text : String} {t : Terminal} (h : Terminal.keyword? text = some t) : IsWord text := by
  unfold Terminal.keyword? at h
  refine List.all_eq_true.1 ?_
  split at h
  case h_23 => cases h
  all_goals decide +kernel

/-- The names of a text are words, through every repair. -/
theorem tokenLaws_words : TokenLaws (Token.Names fun x => IsWord x.name) where
  found := token_names
  supplied terminal place _ := by
    intro c hc
    simp [Place.textTo] at hc
  renamed t terminal _ _ hkeyword _ := isWord_of_keyword? hkeyword

theorem IsWord.isPlain {text : String} (h : IsWord text) : Name.IsPlain text := by
  intro c hc
  have hword := h c hc
  unfold Name.endsRoot
  rw [Bool.or_eq_false_iff, decide_eq_false_iff_not, decide_eq_false_iff_not]
  constructor
  all_goals
    rintro rfl
    exact absurd hword (by decide)

theorem isPlain_of_mem_idents (text : String) : ∀ x ∈ (parse text).file.idents, Name.IsPlain x.name :=
  fun x hx => (parse_names tokenLaws_words text x hx).isPlain

end LuaAtlas.Syntax
