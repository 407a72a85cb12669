/-
Texts on which the program ends. It takes from the end of a string as many bytes as its opening delimiter has, and where
the closing one has not as many, they may cut a character in two, which the program does not survive. No other text
makes it end.
-/
import LuaAtlas.Proofs.Syntax.Meaning
import Mathlib.Data.String.Basic

namespace LuaAtlas.Syntax

/-! ## Strings that are cut -/

/-- A string in which as many bytes from the end as the opening delimiter has do not begin with a character. -/
def IsCut (raw : List Char) : Prop :=
  ∃ opening inner closing, Delimiters opening closing ∧ opening.length ≠ closing.length ∧
    raw = opening ++ inner ++ closing ∧
    ∀ kept dropped, inner ++ closing = kept ++ dropped → String.utf8Len dropped ≠ opening.length

/-- A string in the text is cut. -/
def HasCut (text : List Char) : Prop := ∃ raw, IsCut raw ∧ raw <:+: text

namespace Meaning

theorem utf8Len_replicate (n : Nat) : String.utf8Len (List.replicate n '=') = n := by
  induction n with
  | zero => rfl
  | succ n ih => rw [List.replicate_succ, String.utf8Len_cons, ih, show '='.utf8Size = 1 from rfl]

theorem dropBytes?_append : ∀ ds cs : List Char, dropBytes? (String.utf8Len ds) (ds ++ cs) = some cs
  | [], cs => by cases cs <;> rfl
  | d :: ds, cs => by
    have hsize := d.utf8Size_pos
    obtain ⟨n, hn⟩ : ∃ n, String.utf8Len (d :: ds) = n + 1 := Nat.exists_eq_succ_of_ne_zero (by
      rw [String.utf8Len_cons]
      omega)
    rw [String.utf8Len_cons] at hn
    have hrest : n + 1 - d.utf8Size = String.utf8Len ds := by omega
    rw [String.utf8Len_cons, hn, List.cons_append, dropBytes?, if_neg (by omega), hrest]
    exact dropBytes?_append ds cs

theorem unquote?_bracket (rest : List Char) : unquote? (String.ofList ('[' :: rest)) =
    if String.utf8Len ('[' :: rest) < 2 * ((rest.takeWhile (· = '=')).length + 2) then some ""
    else (dropBytes? ((rest.takeWhile (· = '=')).length + 2)
      (rest.drop ((rest.takeWhile (· = '=')).length + 2 - 1)).reverse).map fun cs => String.ofList cs.reverse := by
  unfold unquote?
  rw [String.toList_ofList, String.utf8ByteSize_ofList]
  rfl

theorem unquote?_long (level : Nat) (after : List Char) :
    unquote? (String.ofList ('[' :: List.replicate level '=' ++ ['['] ++ after)) =
      if String.utf8Len after < level + 2 then some ""
      else (dropBytes? (level + 2) after.reverse).map fun cs => String.ofList cs.reverse := by
  have hlevel : ((List.replicate level '=' ++ (['['] ++ after)).takeWhile (· = '=')).length = level := by
    rw [List.takeWhile_append_of_pos fun c hc => decide_eq_true (List.eq_of_mem_replicate hc)]
    simp
  have hafter : (List.replicate level '=' ++ (['['] ++ after)).drop (level + 2 - 1) = after := by
    rw [← List.append_assoc]
    exact List.drop_left' (by simp)
  have hbytes : String.utf8Len ('[' :: (List.replicate level '=' ++ (['['] ++ after))) =
      level + 2 + String.utf8Len after := by
    rw [String.utf8Len_cons, String.utf8Len_append, utf8Len_replicate, List.singleton_append, String.utf8Len_cons,
      show '['.utf8Size = 1 from rfl]
    omega
  rw [List.cons_append, List.cons_append, List.append_assoc, unquote?_bracket, hbytes, hlevel, hafter]
  exact if_congr (by omega) rfl rfl

/-- Delimiters of one length are taken off a string, and nothing else. -/
theorem unquote?_of_delimiters {opening inner closing : List Char} (h : Delimiters opening closing)
    (hlength : opening.length = closing.length) :
    unquote? (String.ofList (opening ++ inner ++ closing)) = some (String.ofList inner) := by
  cases h with
  | double => simp [unquote?]
  | single => simp [unquote?]
  | long i j =>
    obtain rfl : i = j := by simpa using hlength
    have hclosing : String.utf8Len (']' :: List.replicate i '=' ++ [']']) = i + 2 := by
      rw [String.utf8Len_append, String.utf8Len_cons, utf8Len_replicate]
      rfl
    have hdrop := dropBytes?_append (']' :: List.replicate i '=' ++ [']']).reverse inner.reverse
    rw [String.utf8Len_reverse, hclosing] at hdrop
    rw [List.append_assoc, unquote?_long, String.utf8Len_append, hclosing, if_neg (by omega), List.reverse_append, hdrop,
      Option.map_some, List.reverse_reverse]

/-- A string has no value only if it is cut. -/
theorem isCut_of_unquote?_eq_none {raw opening inner closing : List Char} (h : Delimiters opening closing)
    (hraw : raw = opening ++ inner ++ closing) (hnone : unquote? (String.ofList raw) = none) : IsCut raw := by
  subst hraw
  have hlength : opening.length ≠ closing.length := fun heq => by
    rw [unquote?_of_delimiters h heq] at hnone
    cases hnone
  refine ⟨opening, inner, closing, h, hlength, rfl, fun kept dropped hsplit hsize => ?_⟩
  cases h with
  | double => exact hlength rfl
  | single => exact hlength rfl
  | long i j =>
    have hdrop := dropBytes?_append dropped.reverse kept.reverse
    have hopening : ('[' :: List.replicate i '=' ++ ['[']).length = i + 2 := by simp
    rw [String.utf8Len_reverse, hsize, hopening, ← List.reverse_append, ← hsplit] at hdrop
    rw [List.append_assoc, unquote?_long, hdrop] at hnone
    split at hnone <;> cases hnone

end Meaning

/-! ## From parts to wholes -/

namespace Part

variable {ps : List Part}

theorem exists_isFatal_of_endsInTurn : ∀ {fs : List (Part → Bool)}, endsInTurn ps fs = true →
    ∃ p ∈ ps, p.isFatal = true
  | [], h => by cases h
  | isWanted :: rest, h => by
    rw [endsInTurn] at h
    split at h
    · rename_i p hp
      rw [Bool.or_eq_true, Bool.and_eq_true] at h
      rcases h with h | ⟨-, h⟩
      · exact ⟨p, List.mem_of_find?_eq_some hp, h⟩
      · exact exists_isFatal_of_endsInTurn h
    · cases h

/-- The program ends in one of the parts, or it is a string that has no value. -/
theorem isFatal_of_ends {made : Nonterminal} {start stop : Place} (h : ends made ps start stop = true) :
    (∃ p ∈ ps, p.isFatal = true) ∨ made = .string ∧ Meaning.unquote? (start.textTo stop) = none := by
  unfold ends at h
  cases made with
  | string => exact .inr ⟨rfl, Option.isNone_iff_eq_none.1 h⟩
  | assignment =>
    left
    dsimp only at h
    split at h
    · rename_i targets values heq
      have hmem : ∀ p ∈ targets :: values, p ∈ ps := fun p hp => (List.mem_filter.1 (heq ▸ hp)).1
      rw [Bool.or_eq_true, Bool.and_eq_true] at h
      rcases h with h | ⟨-, h⟩
      · exact ⟨targets, hmem _ (List.mem_cons_self ..), h⟩
      · obtain ⟨p, hp, hfatal⟩ := List.any_eq_true.1 h
        exact ⟨p, hmem p (List.mem_cons_of_mem _ hp), hfatal⟩
    · cases h
  | chunk | block | targets | values | names | localNames | expressions | arguments | localAssignment | localDecl
  | functionExpr | parameters | returnStat | doStat | repeatStat | ifStat | elseifClause | elseClause | forStat
  | genericClause | table => exact .inl (List.any_eq_true.1 h)
  | functionDecl | localFunction | whileStat | bracketIndex | call | binary | unary | parenthesized | entry =>
    exact .inl (exists_isFatal_of_endsInTurn h)
  | numericClause | dotIndex | functionField | methodIndex | functionMethod =>
    exact .inl (exists_isFatal_of_endsInTurn (Bool.and_eq_true_iff.1 h).2)
  | _ => cases h

end Part

/-! ## Nodes without faults -/

namespace Node

variable {text : List Char}

mutual

theorem addParts_ends : ∀ (n : Node), n.Fits text → ∀ (role? : Option Role) {rest : List Part},
    (∀ p ∈ rest, p.isFatal = true → HasCut text) → ∀ p ∈ addParts role? rest n, p.isFatal = true → HasCut text
  | leaf t e, h, role?, rest, hrest => by
    rw [addParts]
    split
    · exact List.forall_mem_cons.2 ⟨fun hfatal => absurd hfatal Bool.false_ne_true, hrest⟩
    · exact hrest
  | tree (.rule k) cs e d, h, role?, rest, hrest => by
    cases h with
    | tree hspans hcs _ _ =>
      rw [addParts]
      split
      · refine List.forall_mem_cons.2 ⟨fun hfatal => ?_, hrest⟩
        rcases Part.isFatal_of_ends hfatal with ⟨p, hp, hfatal⟩ | ⟨hstring, hnone⟩
        · exact addAllParts_ends cs hcs none (Rule.get k).roles (List.forall_mem_nil _) p hp hfatal
        · have hspells := hspans.spells
          rw [hstring] at hspells
          obtain ⟨opening, inner, closing, hdelimiters, hraw⟩ := hspells.enclosed rfl
          refine ⟨_, Meaning.isCut_of_unquote?_eq_none hdelimiters hraw ?_, ?_⟩
          · rwa [String.ofList_toList]
          · unfold Place.textTo
            rw [String.toList_ofList, hspans.start_isIn.rest_eq]
            exact (List.take_prefix ..).isInfix.trans (List.drop_suffix ..).isInfix
      · exact addAllParts_ends cs hcs role? (Rule.get k).roles hrest
  | tree .error cs e d, h, _, _, _ => by cases h
  | tree .skipped cs e d, h, _, _, _ => by cases h

theorem addAllParts_ends : ∀ (ns : List Node), (∀ n ∈ ns, n.Fits text) → ∀ (around? : Option Role)
    (roles : List (Option Role)) {rest : List Part}, (∀ p ∈ rest, p.isFatal = true → HasCut text) →
    ∀ p ∈ addAllParts around? roles rest ns, p.isFatal = true → HasCut text
  | [], _, around?, roles, rest, hrest => by
    rw [addAllParts]
    exact hrest
  | n :: ns, h, around?, roles, rest, hrest => by
    have hn := h n (List.mem_cons_self ..)
    have hns : ∀ m ∈ ns, m.Fits text := fun m hm => h m (List.mem_cons_of_mem _ hm)
    rw [addAllParts]
    split
    · exact addParts_ends n hn none (addAllParts_ends ns hns around? roles hrest)
    · exact addParts_ends n hn _ (addAllParts_ends ns hns around? roles.tail hrest)

end

theorem Fits.hasCut {n : Node} (h : n.Fits text) (hfatal : n.isFatal = true) : HasCut text := by
  obtain ⟨p, hp, hfatal⟩ := List.any_eq_true.1 hfatal
  exact addParts_ends n h none (List.forall_mem_nil _) p hp hfatal

/-! ## Nodes at the top of a faulty text -/

variable {good : Token → Prop}

mutual

theorem hasCut_of_endsKept : ∀ (n : Node), n.Stands good text → endsKept n = true → HasCut text
  | leaf .., _, h => by cases h
  | tree (.rule k) cs e d, hn, h => by
    cases hn with
    | tree hfits hcs =>
      rw [endsKept] at h
      split at h
      · exact hasCut_of_endsAllKept cs hcs h
      · simp only [Bool.and_eq_true, decide_eq_true_eq] at h
        exact (hfits h.1.1).hasCut h.2
  | tree .error cs e d, hn, h => by
    rw [endsKept] at h
    · exact hasCut_of_endsAllKept cs hn.children h
    · exact fun _ hrule => by cases hrule
  | tree .skipped cs e d, hn, h => by
    rw [endsKept] at h
    · exact hasCut_of_endsAllKept cs hn.children h
    · exact fun _ hrule => by cases hrule

theorem hasCut_of_endsAllKept : ∀ (ns : List Node), (∀ n ∈ ns, n.Stands good text) → endsAllKept ns = true → HasCut text
  | [], _, h => by cases h
  | n :: ns, hns, h => by
    rw [endsAllKept, Bool.or_eq_true] at h
    rcases h with h | h
    · exact hasCut_of_endsKept n (hns n (List.mem_cons_self ..)) h
    · exact hasCut_of_endsAllKept ns (fun m hm => hns m (List.mem_cons_of_mem _ hm)) h

end

end Node

/-! ## Texts -/

/-- The program ends on a text only if a string in it is cut. -/
theorem hasCut_of_isFatal {source : String} (h : isFatal source = true) : HasCut source.toList := by
  unfold isFatal at h
  cases htree : Node.ofText source with
  | none =>
    rw [htree] at h
    cases h
  | some root =>
    rw [htree] at h
    dsimp only at h
    split at h
    · rename_i hpenalty
      exact (Node.ofText_fits htree hpenalty).hasCut h
    · exact Node.hasCut_of_endsAllKept root.children (Node.ofText_stands htree).children h

end LuaAtlas.Syntax
