/-
Where tokens stand. A token that is found in a text lies behind the place where it was looked for, between two places
of the text; it has some text unless it is the rest of a comment or string or the end of the file; and the tokens that
open and close strings are spelled as quotes and long brackets are.
-/
import LuaAtlas.Proofs.Syntax.Automaton
import LuaAtlas.Proofs.Syntax.Place
import LuaAtlas.Syntax.Reader
import Mathlib.Data.List.TakeWhile

namespace LuaAtlas.Syntax

open Lexeme

/-! ## Delimiters -/

/-- What stands on both sides of a string: the same quote, or two long brackets. -/
inductive Delimiters : List Char → List Char → Prop
  | double : Delimiters ['"'] ['"']
  | single : Delimiters ['\''] ['\'']
  | long (i j : Nat) : Delimiters ('[' :: List.replicate i '=' ++ ['[']) (']' :: List.replicate j '=' ++ [']'])

namespace Symbol

/-- Whether `cs` can be the text of a symbol as far as the delimiters of strings go. -/
def Spells : Symbol → List Char → Prop
  | terminal .doubleQuote, cs => cs = ['"']
  | terminal .singleQuote, cs => cs = ['\'']
  | terminal .longOpen, cs => ∃ i, cs = '[' :: List.replicate i '=' ++ ['[']
  | terminal .longClose, cs => ∃ i, cs = ']' :: List.replicate i '=' ++ [']']
  | σ, cs => σ.isEnclosed = true → ∃ opening inner closing, Delimiters opening closing ∧ cs = opening ++ inner ++ closing

theorem delimiters_of_encloses {σ τ : Symbol} (h : σ.encloses τ = true) {cs ds : List Char} (hσ : σ.Spells cs)
    (hτ : τ.Spells ds) : Delimiters cs ds := by
  unfold encloses at h
  split at h
  · rw [show cs = ['"'] from hσ, show ds = ['"'] from hτ]
    exact .double
  · rw [show cs = ['\''] from hσ, show ds = ['\''] from hτ]
    exact .single
  · obtain ⟨i, hi⟩ := (hσ : ∃ i, cs = '[' :: List.replicate i '=' ++ ['['])
    obtain ⟨j, hj⟩ := (hτ : ∃ j, ds = ']' :: List.replicate j '=' ++ [']'])
    rw [hi, hj]
    exact .long i j
  · cases h

/-- Most terminals can be spelled in any way. -/
def isFree : Terminal → Bool
  | .doubleQuote | .singleQuote | .longOpen | .longClose => false
  | _ => true

theorem spells_of_isFree {t : Terminal} (h : isFree t = true) (cs : List Char) : (terminal t).Spells cs := by
  cases t
  all_goals first
    | exact fun henclosed => nomatch henclosed
    | exact absurd h (by decide)

end Symbol

theorem isFree_of_keyword? {text : String} {t : Terminal} (h : Terminal.keyword? text = some t) :
    Symbol.isFree t = true ∧ (Symbol.terminal t).mayBeEmpty = false := by
  unfold Terminal.keyword? at h
  split at h
  case h_23 => cases h
  all_goals
    cases h
    exact ⟨rfl, rfl⟩

/-! ## Tokens in their places -/

/-- How a symbol stands in a text from `start` to `stop`. -/
structure Symbol.Spans (text : List Char) (σ : Symbol) (start stop : Place) : Prop where
  start_isIn : start.IsIn text
  stop_isIn : stop.IsIn text
  le : start.index ≤ stop.index
  proper : σ.mayBeEmpty = false → start.index < stop.index
  spells : σ.Spells (start.textTo stop).toList
  last : σ = .terminal .eof → start.rest = []

/-- A token that was found behind `p`. -/
structure Lexeme.Found.Fits (text : List Char) (p : Place) (f : Found) : Prop where
  after : p.index ≤ f.start.index
  spans : (Symbol.terminal f.terminal).Spans text f.start f.stop

/-- A search behind `p` that was in vain. -/
structure Lexeme.Stuck.Fits (text : List Char) (p : Place) (s : Stuck) : Prop where
  after : p.index ≤ s.start.index
  le : s.start.index ≤ s.stop.index
  start_isIn : s.start.IsIn text
  stop_isIn : s.stop.IsIn text

/-- A search behind `p`, in vain or not. -/
def Lexeme.Fits (text : List Char) (p : Place) : Except Stuck Found → Prop
  | .ok f => f.Fits text p
  | .error s => s.Fits text p

/-- A token of the text. -/
structure Token.Fits (text : List Char) (t : Token) : Prop where
  start_isIn : t.start.IsIn text
  stop_isIn : t.stop.IsIn text
  le : t.start.index ≤ t.stop.index
  spans : ∀ k, t.terminal? = some k → (Symbol.terminal k).Spans text t.start t.stop

variable {text : List Char} {p q : Place}

theorem Lexeme.Found.Fits.of_le {f : Found} (h : f.Fits text q) (hle : p.index ≤ q.index) : f.Fits text p :=
  ⟨hle.trans h.after, h.spans⟩

theorem Lexeme.Stuck.Fits.of_le {s : Stuck} (h : s.Fits text q) (hle : p.index ≤ q.index) : s.Fits text p :=
  ⟨hle.trans h.after, h.le, h.start_isIn, h.stop_isIn⟩

theorem Lexeme.Fits.of_le {r : Except Stuck Found} (h : Lexeme.Fits text q r) (hle : p.index ≤ q.index) :
    Lexeme.Fits text p r := by
  cases r with
  | ok f => exact Found.Fits.of_le h hle
  | error s => exact Stuck.Fits.of_le h hle

/-- A keyword that is taken as a name stands where it stood. -/
theorem Token.Fits.renamed {t : Token} {k : Terminal} (h : t.Fits text) (hterminal : t.terminal? = some k)
    (hkeyword : Terminal.keyword? (t.start.textTo t.stop) = some k) :
    Token.Fits text { t with terminal? := some .name } := by
  refine ⟨h.start_isIn, h.stop_isIn, h.le, fun k' hk' => ?_⟩
  cases hk'
  exact ⟨h.start_isIn, h.stop_isIn, h.le, fun _ => (h.spans k hterminal).proper (isFree_of_keyword? hkeyword).2,
    Symbol.spells_of_isFree rfl _, fun hname => by cases hname⟩

/-! ## Looking for tokens -/

theorem isIn_afterMark (h : p.IsIn text) : (afterMark p).IsIn text ∧ p.index ≤ (afterMark p).index := by
  unfold afterMark
  split
  · exact ⟨h.next, Place.index_le_next p⟩
  · exact ⟨h, le_rfl⟩

theorem ne_nil_of_run {f : Char → Bool} {cs : List Char} (h : run f cs ≠ 0) : cs ≠ [] := by
  rintro rfl
  exact h rfl

/-- The token of `n` characters at a place. -/
theorem fits_of {t : Terminal} {n : Nat} (hp : p.IsIn text) (hn : n ≠ 0) (hrest : p.rest ≠ [])
    (hspells : (Symbol.terminal t).Spells (p.textTo (p.skip n)).toList) (ht : t ≠ .eof) :
    (Found.of t p n).Fits text p where
  after := le_rfl
  spans := ⟨hp, hp.skip n, Place.index_le_skip n p, fun _ => Place.index_lt_skip hn hrest, hspells,
    fun heof => absurd (Symbol.terminal.inj heof) ht⟩

theorem fits_of_isFree {t : Terminal} {n : Nat} (hp : p.IsIn text) (hn : n ≠ 0) (hrest : p.rest ≠ [])
    (hfree : Symbol.isFree t = true) (ht : t ≠ .eof) : (Found.of t p n).Fits text p :=
  fits_of hp hn hrest (Symbol.spells_of_isFree hfree _) ht

theorem stuck_skip (hp : p.IsIn text) (n : Nat) : Stuck.Fits text p ⟨p, p.skip n⟩ :=
  ⟨le_rfl, Place.index_le_skip n p, hp, hp.skip n⟩

theorem escapeLength_ok {cs : List Char} {n : Nat} (h : escapeLength cs = .ok n) : n ≠ 0 ∧ cs ≠ [] := by
  unfold escapeLength at h
  split at h
  · refine ⟨?_, List.cons_ne_nil _ _⟩
    rintro rfl
    dsimp only at h
    repeat' split at h
    all_goals
      simp only [Except.ok.injEq, reduceCtorEq] at h
      try omega
  · cases h
  · cases h

theorem scanEscape_fits (hp : p.IsIn text) : Lexeme.Fits text p (scanEscape p) := by
  unfold scanEscape
  split
  · rename_i n hn
    obtain ⟨hpos, hne⟩ := escapeLength_ok hn
    exact fits_of_isFree hp hpos hne rfl (by decide)
  · exact stuck_skip hp _

theorem scanQuoted_fits {mark inner : Terminal} {quote : Char} (hp : p.IsIn text)
    (hmark : (Symbol.terminal mark).Spells [quote]) (hmarkEof : mark ≠ .eof) (hinner : Symbol.isFree inner = true)
    (hinnerEof : inner ≠ .eof) : Lexeme.Fits text p (scanQuoted mark inner quote p) := by
  unfold scanQuoted
  dsimp only
  split
  · rename_i hn
    exact fits_of_isFree hp hn (ne_nil_of_run hn) hinner hinnerEof
  · split
    · rename_i hquote
      obtain ⟨ds, hrest⟩ := List.head?_eq_some_iff.1 hquote
      have htext : p.textTo (p.skip [quote].length) = String.ofList [quote] := Place.textTo_skip hrest
      refine fits_of hp Nat.one_ne_zero (by simp [hrest]) ?_ hmarkEof
      rw [show (1 : Nat) = [quote].length from rfl, htext, String.toList_ofList]
      exact hmark
    · exact scanEscape_fits hp

theorem scanRemark_fits (hp : p.IsIn text) : (scanRemark p).Fits text p := by
  unfold scanRemark
  dsimp only
  split
  · rename_i hdashes
    have hne : lineLength p.rest ≠ 0 := by
      intro hzero
      rw [hzero] at hdashes
      cases hdashes
    exact fits_of_isFree hp hne (ne_nil_of_run hne) rfl (by decide)
  · exact ⟨le_rfl, hp, hp.skip _, Place.index_le_skip _ p, (fun hempty => by cases hempty),
      Symbol.spells_of_isFree rfl _, fun heof => by cases heof⟩

/-- The longest of some terminals is one of them and has a length of its own. -/
theorem mem_of_longest? {ts : List Terminal} {cs : List Char} {t : Terminal} {n : Nat}
    (h : longest? ts cs = some (t, n)) : t ∈ ts ∧ n = length t cs ∧ n ≠ 0 := by
  have hfold : ∀ b ∈ longest? ts cs, b.1 ∈ ts ∧ b.2 = length b.1 cs ∧ b.2 ≠ 0 := by
    unfold longest?
    refine List.foldlRecOn (motive := fun best? : Option (Terminal × Nat) =>
      ∀ b ∈ best?, b.1 ∈ ts ∧ b.2 = length b.1 cs ∧ b.2 ≠ 0) _ _ (by simp) fun best? hbest t ht => ?_
    dsimp only
    split
    · rename_i hlt
      intro b hb
      cases hb
      exact ⟨ht, rfl, (Nat.zero_lt_of_lt hlt).ne'⟩
    · exact hbest
  exact hfold (t, n) h

/-- A terminal with one spelling is there when it has a length. -/
theorem rest_of_length {t : Terminal} {cs : List Char} (ht : t = .doubleQuote ∨ t = .singleQuote)
    (h : length t cs ≠ 0) : length t cs = t.spelling.length ∧ ∃ ds, cs = t.spelling ++ ds := by
  have hlength : length t cs = if t.spelling.isPrefixOf cs then t.spelling.length else 0 := by
    rcases ht with rfl | rfl <;> rfl
  rw [hlength] at h ⊢
  split at h
  · rename_i hprefix
    obtain ⟨ds, hds⟩ := List.isPrefixOf_iff_prefix.1 hprefix
    exact ⟨if_pos hprefix, ds, hds.symm⟩
  · exact absurd rfl h

/-- What is looked for in a mode are quotes, or terminals that can be spelled in any way. -/
theorem isFree_of_mem_terminals (mode : Mode) : ∀ t ∈ mode.terminals,
    t ≠ .eof ∧ (Symbol.isFree t = true ∨ t = .doubleQuote ∨ t = .singleQuote) := by
  cases mode <;> decide

theorem scanOpen_fits (mode : Mode) (hp : p.IsIn text) : Lexeme.Fits text p (scanOpen mode p) := by
  have hstart := hp.skip (run isSpace p.rest)
  have hafter := Place.index_le_skip (run isSpace p.rest) p
  unfold scanOpen
  dsimp only
  generalize p.skip (run isSpace p.rest) = start at hstart hafter
  split
  · rename_i hempty
    exact ⟨hafter, hstart, hstart, le_rfl, (fun hproper => by cases hproper), Symbol.spells_of_isFree rfl _,
      fun _ => List.isEmpty_iff.1 hempty⟩
  · rename_i hempty
    have hne : start.rest ≠ [] := fun hnil => hempty (List.isEmpty_iff.2 hnil)
    split
    · rename_i t n hlongest
      obtain ⟨hmem, rfl, hn⟩ := mem_of_longest? hlongest
      obtain ⟨heof, hfree | hquote⟩ := isFree_of_mem_terminals mode t hmem
      · exact Found.Fits.of_le (fits_of_isFree hstart hn hne hfree heof) hafter
      · obtain ⟨hlength, ds, hrest⟩ := rest_of_length hquote hn
        refine Found.Fits.of_le (fits_of hstart hn hne ?_ heof) hafter
        rw [hlength, Place.textTo_skip hrest, String.toList_ofList]
        rcases hquote with rfl | rfl <;> rfl
    · split
      · exact scanEscape_fits hp
      · exact ⟨hafter, le_rfl, hstart, hstart⟩

theorem lexemeScan_fits (mode : Mode) (hp : p.IsIn text) : Lexeme.Fits text p (scan mode p) := by
  obtain ⟨hmark, hle⟩ := isIn_afterMark hp
  refine Lexeme.Fits.of_le ?_ hle
  unfold scan
  split
  · exact scanQuoted_fits hmark rfl (by decide) rfl (by decide)
  · exact scanQuoted_fits hmark rfl (by decide) rfl (by decide)
  · exact scanRemark_fits hmark
  · exact scanOpen_fits _ hmark

/-! ## Long brackets -/

namespace LongBracket

theorem skip_add : ∀ (m n : Nat) (p : Place), p.skip (m + n) = (p.skip m).skip n
  | 0, n, p => by rw [Nat.zero_add]; rfl
  | m + 1, n, p => by
    rw [Nat.add_right_comm]
    exact skip_add m n p.next

theorem next_eq_skip (p : Place) : p.next = p.skip 1 := rfl

/-- A run of equals signs. -/
theorem run_equals (cs : List Char) :
    cs = List.replicate (run (· = '=') cs) '=' ++ cs.dropWhile (· = '=') := by
  have hrun : cs.takeWhile (· = '=') = List.replicate (run (· = '=') cs) '=' :=
    List.eq_replicate_iff.2 ⟨rfl, fun c hc => by simpa using List.mem_takeWhile_imp hc⟩
  rw [← hrun, List.takeWhile_append_dropWhile]

/-- A bracket of equals signs that is complete. -/
theorem textTo_bracket {c : Char} (hfirst : p.rest.head? = some c)
    (hlast : (p.next.skip (run (· = '=') p.next.rest)).rest.head? = some c) :
    (p.textTo (p.next.skip (run (· = '=') p.next.rest)).next).toList =
      c :: List.replicate (run (· = '=') p.next.rest) '=' ++ [c] := by
  obtain ⟨cs, hrest⟩ := List.head?_eq_some_iff.1 hfirst
  have hnext : p.next.rest = cs := congrArg Place.rest (Place.next_of_rest hrest)
  rw [hnext] at hlast ⊢
  generalize hrun : run (· = '=') cs = n at hlast
  have hcs : cs = List.replicate n '=' ++ cs.dropWhile (· = '=') := hrun ▸ run_equals cs
  have hskip := Place.skip_append (List.replicate n '=') (hnext.trans hcs)
  rw [List.length_replicate] at hskip
  obtain ⟨ds, hds⟩ := List.head?_eq_some_iff.1 (hskip.1 ▸ hlast)
  have hwhole : p.rest = (c :: List.replicate n '=' ++ [c]) ++ ds := by
    rw [hrest, hcs, hds]
    simp
  have htext := Place.textTo_skip hwhole
  have hlength : (c :: List.replicate n '=' ++ [c]).length = 1 + n + 1 := by simp [Nat.add_comm]
  rw [hlength, skip_add, skip_add, ← next_eq_skip, ← next_eq_skip] at htext
  rw [htext, String.toList_ofList]

/-- How far a bracket was read. -/
structure Reads (text : List Char) (p q : Place) : Prop where
  isIn : q.IsIn text
  le : p.index ≤ q.index

theorem reads_skip (hp : p.IsIn text) (n : Nat) : Reads text p (p.skip n) := ⟨hp.skip n, Place.index_le_skip n p⟩

theorem Reads.trans {r : Place} (h : Reads text p q) (h' : Reads text q r) : Reads text p r :=
  ⟨h'.isIn, h.le.trans h'.le⟩

theorem bracket_reads (c : Char) (hp : p.IsIn text) : Reads text p (bracket c p).2 := by
  unfold bracket
  split
  · dsimp only
    split
    · exact (reads_skip hp 1).trans ((reads_skip hp.next _).trans (reads_skip (hp.next.skip _) 1))
    · exact (reads_skip hp 1).trans (reads_skip hp.next _)
  · exact reads_skip hp 0

theorem close_reads (level : Nat) (hp : p.IsIn text) : Reads text p (close level p).2 := by
  unfold close
  split
  · dsimp only
    split
    · exact (reads_skip hp 1).trans ((reads_skip hp.next _).trans (reads_skip (hp.next.skip _) 1))
    · exact (reads_skip hp 1).trans (reads_skip hp.next _)
  · exact reads_skip hp 0

theorem index_lt_of_head? {c : Char} (h : p.rest.head? = some c) : p.index < p.next.index := by
  refine Place.index_lt_next ?_
  intro hnil
  rw [hnil] at h
  cases h

theorem bracket_eq_some {c : Char} {level : Nat} (h : bracket c p = (some level, q)) :
    p.index < q.index ∧ ∃ i, (p.textTo q).toList = c :: List.replicate i '=' ++ [c] := by
  unfold bracket at h
  split at h
  · rename_i hfirst
    dsimp only at h
    split at h
    · rename_i hlast
      cases h
      refine ⟨?_, _, textTo_bracket hfirst hlast⟩
      exact (index_lt_of_head? hfirst).trans_le
        ((Place.index_le_skip _ p.next).trans (Place.index_le_next _))
    · cases h
  · cases h

theorem close_eq_true {level : Nat} (h : close level p = (true, q)) :
    p.index < q.index ∧ ∃ i, (p.textTo q).toList = ']' :: List.replicate i '=' ++ [']'] := by
  unfold close at h
  split at h
  · rename_i hfirst
    dsimp only at h
    split at h
    · rename_i hlast
      cases h
      refine ⟨?_, _, textTo_bracket hfirst (of_decide_eq_true (Bool.and_eq_true_iff.1 hlast).2)⟩
      exact (index_lt_of_head? hfirst).trans_le
        ((Place.index_le_skip _ p.next).trans (Place.index_le_next _))
    · cases h
  · cases h

theorem body_fits {t : Terminal} {level : Nat} {f : Found} (hfree : Symbol.isFree t = true) (ht : t ≠ .eof)
    (hempty : (Symbol.terminal t).mayBeEmpty = true) (hp : p.IsIn text) (hq : Reads text p q)
    (h : body t level p q = some f) : f.Fits text p := by
  obtain ⟨n, -, rfl⟩ := Option.map_eq_some_iff.1 h
  have hstop := hq.trans (reads_skip hq.isIn n)
  exact ⟨le_rfl, hp, hstop.isIn, hstop.le, (fun hproper => by rw [hempty] at hproper; cases hproper),
    Symbol.spells_of_isFree hfree _, fun heof => absurd (Symbol.terminal.inj heof) ht⟩

theorem opening_fits {isWanted : Terminal → Bool} {start : Place} {f : Found} {level : Nat} (hstart : start.IsIn text)
    (hq : Reads text start p) (hopen : isWanted .longOpen = true → start = p)
    (h : opening isWanted start p = some (f, level)) : f.Fits text start := by
  have hread := bracket_reads '[' hq.isIn
  unfold opening at h
  split at h
  · rename_i q heq
    cases h
    split at heq
    · rename_i hwanted
      obtain rfl := hopen hwanted
      obtain ⟨hlt, i, htext⟩ := bracket_eq_some heq
      rw [heq] at hread
      exact ⟨le_rfl, hstart, hread.isIn, hlt.le, fun _ => hlt, ⟨i, htext⟩, fun heof => by cases heof⟩
    · cases heq
  · rename_i q heq
    have hqRead : Reads text start q := by
      split at heq
      · rw [heq] at hread
        exact hq.trans hread
      · cases heq
        exact hq
    split at h
    · rename_i hdashes
      have hbracket := bracket_reads '[' (hqRead.isIn.skip 2)
      split at h
      · rename_i r hr
        cases h
        rw [hr] at hbracket
        have hlt := (bracket_eq_some hr).1
        have hle : start.index ≤ (q.skip 2).index := hqRead.le.trans (Place.index_le_skip 2 q)
        exact ⟨le_rfl, hstart, hbracket.isIn, (hle.trans_lt hlt).le, fun _ => hle.trans_lt hlt,
          Symbol.spells_of_isFree rfl _, fun heof => by cases heof⟩
      · cases h
    · cases h

/-- What a state looks for when long brackets can open in it. -/
def IsSound (isWanted : Terminal → Bool) : Prop := isWanted .longOpen = true →
  isWanted .longBody = true ∨ isWanted .longClose = false ∧ isWanted .remarkClose = false

theorem scan_fits {isWanted : Terminal → Bool} (hsound : IsSound isWanted) {level after : Nat} {f : Found}
    (hp : p.IsIn text) (h : scan isWanted level p = some (f, after)) : f.Fits text p := by
  unfold scan at h
  generalize hclose : (if isWanted .longClose then close level p else (false, p)) = closed at h
  have hclosed : Reads text p closed.2 ∧ (isWanted .longClose = false → closed.2 = p) := by
    rw [← hclose]
    cases isWanted .longClose with
    | true => exact ⟨close_reads level hp, fun hne => by cases hne⟩
    | false => exact ⟨reads_skip hp 0, fun _ => rfl⟩
  split at h
  · rename_i q
    cases h
    split at hclose
    · obtain ⟨hlt, i, htext⟩ := close_eq_true hclose
      exact ⟨le_rfl, hp, hclosed.1.isIn, hlt.le, fun _ => hlt, ⟨i, htext⟩, fun heof => by cases heof⟩
    · cases hclose
  · rename_i q
    cases hbody : isWanted .longBody with
    | true =>
      rw [hbody, if_pos rfl] at h
      obtain ⟨f', hf', heq⟩ := Option.map_eq_some_iff.1 h
      cases heq
      exact body_fits rfl (by decide) rfl hp hclosed.1 hf'
    | false =>
      rw [hbody, if_neg Bool.false_ne_true] at h
      generalize hclose' : (if isWanted .remarkClose then close level q else (false, q)) = closed' at h
      have hclosed' : Reads text q closed'.2 ∧ (isWanted .remarkClose = false → closed'.2 = q) := by
        rw [← hclose']
        cases isWanted .remarkClose with
        | true => exact ⟨close_reads level hclosed.1.isIn, fun hne => by cases hne⟩
        | false => exact ⟨reads_skip hclosed.1.isIn 0, fun _ => rfl⟩
      have hread := hclosed.1.trans hclosed'.1
      split at h
      · rename_i r
        cases h
        split at hclose'
        · have hlt := hclosed.1.le.trans_lt (close_eq_true hclose').1
          exact ⟨le_rfl, hp, hread.isIn, hlt.le, fun _ => hlt, Symbol.spells_of_isFree rfl _, fun heof => by cases heof⟩
        · cases hclose'
      · rename_i r
        split at h
        · obtain ⟨f', hf', heq⟩ := Option.map_eq_some_iff.1 h
          cases heq
          exact body_fits rfl (by decide) rfl hp hread hf'
        · dsimp only at h
          generalize hspaces : run isSpace r.rest = spaces at h
          have hskip := hread.trans (reads_skip hread.isIn spaces)
          by_cases hzero : spaces = 0
          · rw [if_pos hzero] at h
            refine opening_fits hp hskip (fun hopen => ?_) h
            -- where a long bracket opens none can close, so nothing has been read yet
            rcases hsound hopen with hbody' | ⟨hlong, hremark⟩
            · rw [hbody] at hbody'
              cases hbody'
            · obtain rfl : q = p := hclosed.2 hlong
              obtain rfl : r = q := hclosed'.2 hremark
              rw [hzero]
              rfl
          · rw [if_neg hzero] at h
            exact Found.Fits.of_le (opening_fits hskip.isIn (reads_skip hskip.isIn 0) (fun _ => rfl) h) hskip.le

end LongBracket

/-! ## The next token -/

namespace Reader

variable {s : Stack} {v mode level : Nat}

/-- A look at the text that fits. -/
def Look.Fits (text : List Char) (p : Place) (l : Look) : Prop := Lexeme.Fits text p (l.map (·.1))

theorem look_fits (hp : p.IsIn text) : Look.Fits text p (look s v mode level p).1 := by
  unfold look
  split
  · rename_i found after level' hlong
    unfold lookLong at hlong
    dsimp only at hlong
    split at hlong
    · cases hlong
    · rename_i hscan
      split at hlong
      · cases hlong
      · cases hlong
        obtain ⟨hmark, hle⟩ := isIn_afterMark hp
        exact Found.Fits.of_le (LongBracket.scan_fits (fun h => Automaton.takes_longOpen h) hmark hscan) hle
  · generalize (Automaton.row mode).mode?.getD .general = m
    have hscan := lexemeScan_fits m hp
    cases heq : scan m p with
    | ok found =>
      rw [heq] at hscan
      exact hscan
    | error stuck =>
      rw [heq] at hscan
      exact hscan

theorem look_ok {found : Found} {after? : Option Nat} {level' : Nat} (hp : p.IsIn text)
    (h : look s v mode level p = (.ok (found, after?), level')) : found.Fits text p := by
  have hfits : Look.Fits text p (look s v mode level p).1 := look_fits hp
  rw [h] at hfits
  exact hfits

theorem look_error {stuck : Stuck} {level' : Nat} (hp : p.IsIn text)
    (h : look s v mode level p = (.error stuck, level')) : stuck.Fits text p := by
  have hfits : Look.Fits text p (look s v mode level p).1 := look_fits hp
  rw [h] at hfits
  exact hfits

theorem passOver_reads : ∀ (n level : Nat) {p : Place}, p.IsIn text →
    LongBracket.Reads text p (passOver s v n level p).1
  | 0, _, _, hp => ⟨hp, le_rfl⟩
  | n + 1, level, p, hp => by
    rw [passOver]
    split
    · exact ⟨hp, le_rfl⟩
    · rename_i stuck level' hlook
      have hstuck := look_error hp hlook
      dsimp only
      split
      · exact LongBracket.Reads.trans ⟨hp.next, Place.index_le_next p⟩ (passOver_reads n level' hp.next)
      · exact LongBracket.Reads.trans ⟨hstuck.stop_isIn, hstuck.after.trans hstuck.le⟩
          (passOver_reads n level' hstuck.stop_isIn)

/-- A word that is taken for a keyword spans what the word spans. -/
theorem spans_of_keyword {found : Found} {p : Place} (hfound : found.Fits text p) (state : Nat) {k : Terminal}
    (hk : (if found.terminal = .name then
        match Terminal.keyword? (found.start.textTo found.stop) with
        | some k => if Automaton.takes state k then k else .name
        | none => .name
      else found.terminal) = k) : (Symbol.terminal k).Spans text found.start found.stop := by
  split at hk
  · rename_i hname
    have hspans := hfound.spans
    rw [hname] at hspans
    split at hk
    · rename_i word hword
      obtain ⟨hfree, hempty⟩ := isFree_of_keyword? hword
      split at hk
      · subst hk
        exact ⟨hspans.start_isIn, hspans.stop_isIn, hspans.le, fun _ => hspans.proper rfl,
          Symbol.spells_of_isFree hfree _, (fun heof => by rw [heof] at hempty; cases hempty)⟩
      · exact hk ▸ hspans
    · exact hk ▸ hspans
  · exact hk ▸ hfound.spans

/-- The next token of a branch is a token of the text behind the place that the branch has come to. -/
theorem token_fits (s : Stack) (v level : Nat) (h : (s.place v).IsIn text) : (token s v level).1.Fits text ∧
    (token s v level).1.isSupplied = false ∧ (s.place v).index ≤ (token s v level).1.start.index := by
  unfold token
  dsimp only
  split
  · rename_i found after? level' hlook
    have hfound := look_ok h hlook
    exact ⟨⟨hfound.spans.start_isIn, hfound.spans.stop_isIn, hfound.spans.le, fun k hk =>
      spans_of_keyword hfound _ (Option.some.inj hk)⟩, rfl, hfound.after⟩
  · split
    · rename_i found after? level' hlook
      have hfound := look_ok h hlook
      exact ⟨⟨hfound.spans.start_isIn, hfound.spans.stop_isIn, hfound.spans.le, fun k hk =>
        spans_of_keyword hfound _ (Option.some.inj hk)⟩, rfl, hfound.after⟩
    · rename_i stuck level' hlook
      have hstuck := look_error h hlook
      have hnext : ∀ {q : Place}, LongBracket.Reads text stuck.start q →
          LongBracket.Reads text stuck.start (passOver s v (s.place v).rest.length level' q).1 :=
        fun hq => hq.trans (passOver_reads _ _ hq.isIn)
      have hstop := hnext (q := if stuck.stop.byte = stuck.start.byte then stuck.start.next else stuck.stop) (by
        split
        · exact ⟨hstuck.start_isIn.next, Place.index_le_next _⟩
        · exact ⟨hstuck.stop_isIn, hstuck.le⟩)
      exact ⟨⟨hstuck.start_isIn, hstop.isIn, hstop.le, fun k hk => by cases hk⟩, rfl, hstuck.after⟩

end Reader

end LuaAtlas.Syntax
