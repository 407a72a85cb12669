/-
Nodes without faults. A node whose penalty is zero stands in the text: it reaches from one place of the text to
another, its parts follow each other between them and are those of its rule, and so it is with them, down to the tokens.
What holds of every node that is put together is that its penalty is zero only if those of its parts are, save for parts
that are being skipped. Where a node has a fault, what is intact in it still follows one another in the text.
-/
import LuaAtlas.Proofs.Syntax.Lexeme
import LuaAtlas.Syntax.Node
import Mathlib.Data.List.TakeWhile

namespace LuaAtlas.Syntax.Node

/-! ## Tokens of nodes -/

mutual

/-- The tokens of a node in reading order. -/
def tokens : Node → List Token
  | leaf t _ => [t]
  | tree _ cs _ _ => allTokens cs

def allTokens : List Node → List Token
  | [] => []
  | n :: ns => n.tokens ++ allTokens ns

end

theorem mem_allTokens {t : Token} : ∀ {ns : List Node}, t ∈ allTokens ns ↔ ∃ n ∈ ns, t ∈ n.tokens
  | [] => by simp [allTokens]
  | n :: ns => by simp [allTokens, mem_allTokens]

/-- Every token of the node is good. -/
def Holds (good : Token → Prop) (n : Node) : Prop := ∀ t ∈ n.tokens, good t

section Holds

variable {good : Token → Prop}

theorem holds_leaf {t : Token} {isExtra : Bool} : (leaf t isExtra).Holds good ↔ good t := by
  simp [Holds, tokens]

theorem holds_tree {h : Head} {cs : List Node} {isExtra : Bool} {d : Digest} :
    (tree h cs isExtra d).Holds good ↔ ∀ n ∈ cs, n.Holds good := by
  simp only [Holds, tokens, mem_allTokens]
  exact ⟨fun h n hn t ht => h t ⟨n, hn, ht⟩, fun h t ⟨n, hn, ht⟩ => h n hn t ht⟩

theorem Holds.children {n : Node} (h : n.Holds good) : ∀ c ∈ n.children, c.Holds good := by
  cases n with
  | leaf t e => exact fun c hc => by cases hc
  | tree head cs e d => exact holds_tree.1 h

end Holds

@[simp]
theorem isExtra_setExtra (n : Node) (isExtra : Bool) : (n.setExtra isExtra).isExtra = isExtra := by cases n <;> rfl

@[simp]
theorem stop_setExtra (n : Node) (isExtra : Bool) : (n.setExtra isExtra).stop = n.stop := by cases n <;> rfl

/-! ## Nodes in their places -/

/-- The symbol of a node; what fits nowhere has none. -/
def symbol? : Node → Option Symbol
  | leaf t _ => t.terminal?.map .terminal
  | tree (.rule k) _ _ _ => some (.made (Rule.get k).makes)
  | tree .error _ _ _ | tree .skipped _ _ _ => none

theorem symbol?_of_isError {n : Node} (h : n.isError = true) : n.symbol? = none := by
  cases n with
  | leaf t e => rw [symbol?, Option.isNone_iff_eq_none.1 h, Option.map_none]
  | tree head cs e d =>
    obtain rfl : head = .error := of_decide_eq_true h
    rfl

/-- The symbols of the nodes that are not extra. -/
def symbols (ns : List Node) : List Symbol := (ns.filter (!·.isExtra)).filterMap (·.symbol?)

theorem symbols_append (ns ms : List Node) : symbols (ns ++ ms) = symbols ns ++ symbols ms := by
  simp [symbols]

theorem symbols_cons_extra {n : Node} (h : n.isExtra = true) (ns : List Node) : symbols (n :: ns) = symbols ns := by
  simp [symbols, h]

theorem symbols_cons {n : Node} {σ : Symbol} (h : n.isExtra = false) (hσ : n.symbol? = some σ) (ns : List Node) :
    symbols (n :: ns) = σ :: symbols ns := by
  simp [symbols, h, hσ]

/-- Whether a node may stand between any others: comments do, and the end of the text. -/
def IsAside (n : Node) : Prop := n.symbol? = some (.made .comment) ∨ n.symbol? = some (.terminal .eof)

/-- Nodes that can be the parts of what a rule makes. -/
structure Arranged (made : Nonterminal) (cs : List Node) : Prop where
  aside : ∀ c ∈ cs, c.isExtra = true → c.IsAside
  checked : ∀ check ∈ made.checks, check (symbols cs) = true

/-- Nodes that follow each other from the place with number `i` to that with number `j`. -/
def Laid (i : Nat) : List Node → Nat → Prop
  | [], j => i ≤ j
  | n :: ns, j => i ≤ n.start.index ∧ Laid n.stop.index ns j

/-- A node that stands in the text with everything in it. -/
inductive Fits (text : List Char) : Node → Prop
  | leaf {t : Token} {k : Terminal} {isExtra : Bool} : t.terminal? = some k →
      (Symbol.terminal k).Spans text t.start t.stop → Fits text (leaf t isExtra)
  | tree {k : Nat} {cs : List Node} {isExtra : Bool} {d : Digest} :
      (Symbol.made (Rule.get k).makes).Spans text d.start d.stop → (∀ c ∈ cs, Fits text c) →
      Laid d.start.index cs d.stop.index → Arranged (Rule.get k).makes cs → Fits text (tree (.rule k) cs isExtra d)

variable {text : List Char}

theorem Fits.spans {n : Node} (h : n.Fits text) : ∃ σ, n.symbol? = some σ ∧ σ.Spans text n.start n.stop := by
  cases h with
  | leaf hterminal hspans => exact ⟨_, by rw [symbol?, hterminal]; rfl, hspans⟩
  | tree hspans _ _ _ => exact ⟨_, rfl, hspans⟩

theorem Fits.spans_of {n : Node} (h : n.Fits text) {σ : Symbol} (hσ : n.symbol? = some σ) :
    σ.Spans text n.start n.stop := by
  obtain ⟨τ, hτ, hspans⟩ := h.spans
  cases hσ.symm.trans hτ
  exact hspans

theorem Fits.le {n : Node} (h : n.Fits text) : n.start.index ≤ n.stop.index := by
  obtain ⟨σ, -, hspans⟩ := h.spans
  exact hspans.le

theorem Fits.setExtra {n : Node} (h : n.Fits text) (isExtra : Bool) : (n.setExtra isExtra).Fits text := by
  cases h with
  | leaf hterminal hspans => exact .leaf hterminal hspans
  | tree hspans hcs hlaid harranged => exact .tree hspans hcs hlaid harranged

theorem Laid.of_le {ns : List Node} {i i' j : Nat} (h : Laid i ns j) (hle : i' ≤ i) : Laid i' ns j := by
  cases ns with
  | nil => exact hle.trans h
  | cons n ns => exact ⟨hle.trans h.1, h.2⟩

theorem Laid.mono : ∀ {ns : List Node} {i j j' : Nat}, Laid i ns j → j ≤ j' → Laid i ns j'
  | [], _, _, _, h, hle => h.trans hle
  | _ :: _, _, _, _, h, hle => ⟨h.1, Laid.mono h.2 hle⟩

theorem Laid.split : ∀ {ns ms : List Node} {i j : Nat}, Laid i (ns ++ ms) j → ∃ k, Laid i ns k ∧ Laid k ms j
  | [], _, i, _, h => ⟨i, le_refl i, h⟩
  | _ :: _, _, _, _, h => by
    obtain ⟨k, hns, hms⟩ := Laid.split h.2
    exact ⟨k, ⟨h.1, hns⟩, hms⟩

theorem Laid.append : ∀ {ns ms : List Node} {i j k : Nat}, Laid i ns j → Laid j ms k → Laid i (ns ++ ms) k
  | [], _, _, _, _, h, h' => h'.of_le h
  | _ :: _, _, _, _, _, h, h' => ⟨h.1, Laid.append h.2 h'⟩

theorem Laid.le : ∀ {ns : List Node} {i j : Nat}, (∀ n ∈ ns, n.Fits text) → Laid i ns j → i ≤ j
  | [], _, _, _, h => h
  | n :: _, _, _, hns, h => h.1.trans ((hns n (List.mem_cons_self ..)).le.trans
      (Laid.le (fun m hm => hns m (List.mem_cons_of_mem _ hm)) h.2))

/-- A node between others gives way to what follows each other inside it. -/
theorem Laid.splice {n : Node} {cs ms : List Node} (hcs : Laid n.start.index cs n.stop.index) :
    ∀ {ns : List Node} {i j : Nat}, Laid i (ns ++ n :: ms) j → Laid i (ns ++ (cs ++ ms)) j
  | [], i, j, h => by
    show Laid i (cs ++ ms) j
    exact (hcs.of_le h.1).append h.2
  | _ :: _, _, _, h => ⟨h.1, Laid.splice hcs h.2⟩

/-! ## Nodes without faults among others -/

mutual

/-- The outermost nodes without faults in a node. -/
def intact : Node → List Node
  | leaf t e => if (leaf t e).penalty = 0 then [leaf t e] else []
  | tree h cs e d => if d.penalty = 0 then [tree h cs e d] else allIntact cs

/-- The outermost nodes without faults in several nodes. -/
def allIntact : List Node → List Node
  | [] => []
  | n :: ns => intact n ++ allIntact ns

end

theorem intact_of_penalty {n : Node} (h : n.penalty = 0) : n.intact = [n] := by
  cases n with
  | leaf t e => rw [intact, if_pos h]
  | tree head cs e d => rw [intact, if_pos (show d.penalty = 0 from h)]

theorem intact_of_fault {n : Node} (h : n.penalty ≠ 0) : n.intact = allIntact n.children := by
  cases n with
  | leaf t e =>
    rw [intact, if_neg h]
    rfl
  | tree head cs e d =>
    rw [intact, if_neg (show d.penalty ≠ 0 from h)]
    rfl

theorem laid_intact_leaf {t : Token} {i : Nat} (h : i ≤ t.start.index) (hle : t.start.index ≤ t.stop.index)
    (isExtra : Bool) : Laid i (leaf t isExtra).intact t.stop.index := by
  rw [intact]
  split
  · exact ⟨h, le_rfl⟩
  · exact h.trans hle

theorem allIntact_append : ∀ ns ms : List Node, allIntact (ns ++ ms) = allIntact ns ++ allIntact ms
  | [], _ => rfl
  | n :: ns, ms => by rw [List.cons_append, allIntact, allIntact, allIntact_append ns ms, List.append_assoc]

theorem laid_intact_setExtra {n : Node} {i j : Nat} (h : Laid i n.intact j) (isExtra : Bool) :
    Laid i (n.setExtra isExtra).intact j := by
  cases n with
  | leaf t e =>
    rw [intact] at h
    rw [setExtra, intact]
    split
    · rename_i hpenalty
      rwa [if_pos (show (leaf t e).penalty = 0 from hpenalty)] at h
    · rename_i hpenalty
      rwa [if_neg (show (leaf t e).penalty ≠ 0 from hpenalty)] at h
  | tree head cs e d =>
    rw [intact] at h
    rw [setExtra, intact]
    split
    · rename_i hpenalty
      rwa [if_pos hpenalty] at h
    · rename_i hpenalty
      rwa [if_neg hpenalty] at h

mutual

/-- What is intact in a node that stands in the text follows one another there. -/
theorem Fits.laid_intact : ∀ {n : Node}, n.Fits text → Laid n.start.index n.intact n.stop.index
  | leaf t e, h => by
    rw [intact]
    split
    · exact ⟨le_rfl, le_rfl⟩
    · exact h.le
  | tree head cs e d, h => by
    have hle := h.le
    cases h with
    | tree _ hcs hlaid _ =>
      rw [intact]
      split
      · exact ⟨le_rfl, le_rfl⟩
      · exact laid_allIntact hcs hlaid

theorem laid_allIntact : ∀ {ns : List Node}, (∀ n ∈ ns, n.Fits text) → ∀ {i j : Nat}, Laid i ns j →
    Laid i (allIntact ns) j
  | [], _, _, _, hlaid => hlaid
  | n :: ns, h, i, j, hlaid => by
    obtain ⟨hn, hns⟩ := List.forall_mem_cons.1 h
    rw [allIntact]
    exact (hn.laid_intact.of_le hlaid.1).append (laid_allIntact hns hlaid.2)

end

/-! ## The last place of some nodes -/

/-- Where the last of some nodes that begin at `p` ends. -/
def endOf (p : Place) (ns : List Node) : Place := (ns.getLast?.map (·.stop)).getD p

theorem endOf_nil (p : Place) : endOf p [] = p := rfl

theorem endOf_append (p : Place) (ns ms : List Node) : endOf p (ns ++ ms) = endOf (endOf p ns) ms := by
  unfold endOf
  rw [List.getLast?_append]
  cases ms.getLast? <;> rfl

theorem endOf_cons (p : Place) (n : Node) (ns : List Node) : endOf p (n :: ns) = endOf n.stop ns :=
  endOf_append p [n] ns

/-- Nodes that lead from the place `p` to the place `q`; what is intact in them follows what comes before it. -/
def Follows (text : List Char) (p : Place) : List Node → Place → Prop
  | [], q => p = q
  | n :: ns, q => Laid p.index n.intact n.stop.index ∧ n.stop.IsIn text ∧ Follows text n.stop ns q

theorem Follows.endOf_eq : ∀ {ns : List Node} {p q : Place}, Follows text p ns q → endOf p ns = q
  | [], _, _, h => h
  | n :: ns, p, _, h => by
    rw [endOf_cons]
    exact h.2.2.endOf_eq

theorem Follows.append_iff : ∀ {ns ms : List Node} {p q : Place},
    Follows text p (ns ++ ms) q ↔ Follows text p ns (endOf p ns) ∧ Follows text (endOf p ns) ms q
  | [], _, _, _ => by
    rw [endOf_nil, List.nil_append]
    exact ⟨fun h => ⟨rfl, h⟩, fun h => h.2⟩
  | n :: ns, ms, p, q => by
    rw [endOf_cons, List.cons_append]
    show _ ∧ _ ∧ _ ↔ (_ ∧ _ ∧ _) ∧ _
    rw [Follows.append_iff, and_assoc, and_assoc]

theorem Follows.isIn : ∀ {ns : List Node} {p q : Place}, Follows text p ns q → p.IsIn text → q.IsIn text
  | [], _, _, h, hp => h ▸ hp
  | _ :: _, _, _, h, _ => h.2.2.isIn h.2.1

theorem Follows.laid : ∀ {ns : List Node} {p q : Place}, Follows text p ns q → (∀ n ∈ ns, n.penalty = 0) →
    Laid p.index ns q.index
  | [], _, _, h, _ => le_of_eq (congrArg Place.index h)
  | n :: _, _, _, h, hns => by
    have hn := h.1
    rw [intact_of_penalty (hns n (List.mem_cons_self ..))] at hn
    exact ⟨hn.1, h.2.2.laid fun m hm => hns m (List.mem_cons_of_mem _ hm)⟩

theorem Follows.laid_allIntact : ∀ {ns : List Node} {p q : Place}, Follows text p ns q →
    Laid p.index (allIntact ns) q.index
  | [], _, _, h => le_of_eq (congrArg Place.index h)
  | n :: ns, _, _, h => by
    rw [allIntact]
    exact h.1.append h.2.2.laid_allIntact

/-! ## Penalties -/

/-- Nodes that add nothing to the penalty of the rule around them. -/
def AreFree (ns : List Node) : Prop := ∀ n ∈ ns, n.isSkipped = true ∨ n.penalty = 0

theorem areFree_append {ns ms : List Node} : AreFree (ns ++ ms) ↔ AreFree ns ∧ AreFree ms := List.forall_mem_append

theorem sums_eq_zero (isFault : Bool) : ∀ (roles : List (Option Role)) (ns : List Node),
    (sums isFault roles ns).1 = 0 → AreFree ns
  | _, [], _ => fun n hn => by cases hn
  | roles, n :: ns, h => by
    have hsum : (sums isFault (if n.isExtra then roles else roles.tail) ns).1 +
        (if n.isSkipped then 0 else n.penalty) + (if isFault then n.skipPenalty else 0) = 0 := h
    intro m hm
    rcases List.mem_cons.1 hm with rfl | hm
    · cases hskipped : m.isSkipped with
      | true => exact Or.inl rfl
      | false =>
        rw [hskipped, if_neg Bool.false_ne_true] at hsum
        exact Or.inr (by omega)
    · exact sums_eq_zero isFault (if n.isExtra then roles else roles.tail) ns (by omega) m hm

theorem sums_of_areFree : ∀ (roles : List (Option Role)) (ns : List Node), AreFree ns → (sums false roles ns).1 = 0
  | _, [], _ => rfl
  | roles, n :: ns, h => by
    have hrest := sums_of_areFree (if n.isExtra then roles else roles.tail) ns fun m hm => h m (List.mem_cons_of_mem _ hm)
    show (sums false (if n.isExtra then roles else roles.tail) ns).1 + (if n.isSkipped then 0 else n.penalty) +
      (if false then n.skipPenalty else 0) = 0
    rw [hrest]
    rcases h n (List.mem_cons_self ..) with hskipped | hpenalty
    · simp [hskipped]
    · simp [hpenalty]

/-- A rule adds no penalty to those of its parts. -/
theorem penalty_build_rule {k : Nat} {cs : List Node} {place : Place} :
    (build (.rule k) cs place).penalty = 0 ↔ AreFree cs := by
  show (sums false (Rule.get k).roles cs).1 + 0 = 0 ↔ _
  exact ⟨fun h => sums_eq_zero _ _ cs h, fun h => sums_of_areFree _ cs h⟩

/-- What fits nowhere has a penalty of its own. -/
theorem penalty_build_fault {head : Head} {cs : List Node} {place : Place} (h : head = .error ∨ head = .skipped) :
    (build head cs place).penalty ≠ 0 := by
  have hfault : Penalty.fault ≤ (build head cs place).penalty := by
    unfold build penalty
    dsimp only
    rcases h with rfl | rfl
    · rw [if_pos (by decide), Nat.add_assoc]
      exact (Nat.le_add_right _ _).trans (Nat.le_add_left _ _)
    · rw [if_pos (by decide), Nat.add_assoc]
      exact (Nat.le_add_right _ _).trans (Nat.le_add_left _ _)
  exact (Nat.lt_of_lt_of_le (by decide) hfault).ne'

/-- What is intact in a node with a fault is what is intact in its parts. -/
theorem laid_intact_build {head : Head} {cs : List Node} {place : Place} {i j : Nat}
    (h : head = .error ∨ head = .skipped) (hcs : Laid i (allIntact cs) j) : Laid i (build head cs place).intact j := by
  rw [intact_of_fault (penalty_build_fault h)]
  exact hcs

/-! ## Extra nodes at the end -/

theorem splitExtras_eq (ns : List Node) : splitExtras ns =
    ((ns.reverse.dropWhile (·.isExtra)).reverse, (ns.reverse.takeWhile (·.isExtra)).reverse) := by
  unfold splitExtras
  dsimp only
  generalize hextras : (ns.reverse.takeWhile (·.isExtra)).reverse = extras
  generalize hparts : (ns.reverse.dropWhile (·.isExtra)).reverse = parts
  have hns : parts ++ extras = ns := by
    rw [← hparts, ← hextras, ← List.reverse_append, List.takeWhile_append_dropWhile, List.reverse_reverse]
  rw [← hns, List.length_append, Nat.add_sub_cancel, List.take_left]

/-- Splitting off the extra nodes keeps all nodes in order; those at the end are extra, and the last before them is
not. -/
theorem splitExtras_spec {ns parts extras : List Node} (h : splitExtras ns = (parts, extras)) :
    parts ++ extras = ns ∧ (∀ n ∈ extras, n.isExtra = true) ∧ ∀ n ∈ parts.getLast?, n.isExtra = false := by
  rw [splitExtras_eq] at h
  cases h
  refine ⟨?_, fun n hn => ?_, fun n hn => ?_⟩
  · rw [← List.reverse_append, List.takeWhile_append_dropWhile, List.reverse_reverse]
  · exact List.mem_takeWhile_imp (p := fun n : Node => n.isExtra) (List.mem_reverse.1 hn)
  · rw [List.getLast?_reverse] at hn
    have hhead := List.head?_dropWhile_not (fun n : Node => n.isExtra) ns.reverse
    rw [Option.mem_def.1 hn] at hhead
    simpa using hhead

theorem splitExtras_append {parts extras : List Node} (hparts : ∀ n ∈ parts.getLast?, n.isExtra = false)
    (hextras : ∀ n ∈ extras, n.isExtra = true) : splitExtras (parts ++ extras) = (parts, extras) := by
  have hall : ∀ n ∈ extras.reverse, n.isExtra = true := fun n hn => hextras n (List.mem_reverse.1 hn)
  have hhead : ∀ n ∈ parts.reverse.head?, n.isExtra = false := by
    rw [List.head?_reverse]
    exact hparts
  rw [splitExtras_eq, List.reverse_append, List.takeWhile_append_of_pos hall, List.dropWhile_append_of_pos hall]
  cases hrev : parts.reverse with
  | nil =>
    rw [List.reverse_eq_nil_iff.1 hrev]
    simp
  | cons n ns =>
    rw [hrev] at hhead
    have hn : n.isExtra = false := hhead n rfl
    rw [List.takeWhile_cons_of_neg (by simp [hn]), List.dropWhile_cons_of_neg (by simp [hn]), List.append_nil,
      List.reverse_reverse, ← hrev, List.reverse_reverse]

/-- Nodes before which there are others that do not end in an extra one. -/
theorem splitExtras_append_left {earlier ns parts extras : List Node}
    (hearlier : ∀ n ∈ earlier.getLast?, n.isExtra = false) (h : splitExtras ns = (parts, extras)) :
    splitExtras (earlier ++ ns) = (earlier ++ parts, extras) := by
  obtain ⟨rfl, hextras, hparts⟩ := splitExtras_spec h
  rw [← List.append_assoc]
  refine splitExtras_append (fun n hn => ?_) hextras
  rw [List.getLast?_append] at hn
  cases hlast : parts.getLast? with
  | none =>
    rw [hlast] at hn
    exact hearlier n hn
  | some m =>
    rw [hlast] at hn
    exact hparts n (hlast.trans hn)

/-! ## Nodes that are put together -/

/-- The penalty of a node that has parts, by what it is. -/
def Counted : Node → Prop
  | leaf .. => True
  | tree (.rule _) cs _ d => d.penalty = 0 ↔ AreFree cs
  | tree .error _ _ d => d.penalty ≠ 0
  | tree .skipped _ isExtra d => d.penalty ≠ 0 ∧ isExtra = false

/-- A node with everything inside it: every token is good, and those that were not supplied are in the text, as is what a
rule makes if it has no fault. -/
inductive Stands (good : Token → Prop) (text : List Char) : Node → Prop
  | leaf {t : Token} {isExtra : Bool} : good t → t.isSupplied = true ∨ t.Fits text → Stands good text (leaf t isExtra)
  | tree {head : Head} {cs : List Node} {isExtra : Bool} {d : Digest} :
      (d.penalty = 0 → (tree head cs isExtra d).Fits text) → (∀ c ∈ cs, Stands good text c) →
      Stands good text (tree head cs isExtra d)

variable {good : Token → Prop}

namespace Stands

variable {n : Node}

theorem holds (h : n.Stands good text) : n.Holds good := by
  induction h with
  | leaf hgood _ => exact holds_leaf.2 hgood
  | tree _ _ ih => exact holds_tree.2 ih

theorem children (h : n.Stands good text) : ∀ c ∈ n.children, c.Stands good text := by
  cases h with
  | leaf _ _ => exact List.forall_mem_nil _
  | tree _ hcs => exact hcs

theorem setExtra (h : n.Stands good text) (isExtra : Bool) : (n.setExtra isExtra).Stands good text := by
  cases h with
  | leaf hgood hfits => exact .leaf hgood hfits
  | tree hfits hcs => exact .tree (fun hpenalty => (hfits hpenalty).setExtra isExtra) hcs

end Stands

theorem stands_build {head : Head} {cs : List Node} {place : Place} (hcs : ∀ n ∈ cs, n.Stands good text)
    (hfits : (build head cs place).penalty = 0 → (build head cs place).Fits text) :
    (build head cs place).Stands good text := .tree hfits hcs

/-- What holds of every node that is put together: everything inside it is as it should be, it stands in the text if it
has no fault, and it stands aside if it is extra as well; its penalty counts its parts, and an error node ends where the
last part of it does. -/
structure Sound (good : Token → Prop) (text : List Char) (n : Node) : Prop where
  stands : n.Stands good text
  fits : n.penalty = 0 → n.Fits text
  aside : n.isExtra = true → n.penalty = 0 → n.IsAside
  counted : n.Counted
  last : n.isError = true → ∀ c ∈ n.children.getLast?, c.isExtra = false ∧ c.stop = n.stop

theorem Sound.setExtra {n : Node} (h : n.Sound good text) (hskipped : n.isSkipped = false) {isExtra : Bool}
    (haside : isExtra = true → n.penalty = 0 → n.IsAside) : (n.setExtra isExtra).Sound good text := by
  obtain ⟨hstands, hfits, -, hcounted, hlast⟩ := h
  have hstands := hstands.setExtra isExtra
  cases n with
  | leaf t e => exact ⟨hstands, fun hpenalty => Fits.setExtra (hfits hpenalty) isExtra, haside, trivial, hlast⟩
  | tree head cs e d =>
    cases head with
    | rule k => exact ⟨hstands, fun hpenalty => Fits.setExtra (hfits hpenalty) isExtra, haside, hcounted, hlast⟩
    | error => exact ⟨hstands, fun hpenalty => absurd hpenalty hcounted, haside, hcounted, hlast⟩
    | skipped => simp [isSkipped] at hskipped

/-- A token that is in the text, or that was supplied. -/
theorem sound_leaf {t : Token} {isExtra : Bool} (hgood : good t) (hterminal : t.terminal?.isSome = true)
    (hfits : t.isSupplied = true ∨ t.Fits text) (haside : isExtra = true → t.terminal? = some .eof) :
    (leaf t isExtra).Sound good text := by
  refine ⟨.leaf hgood hfits, fun hpenalty => ?_, fun hextra _ => Or.inr ?_, trivial, fun _ c hc => by cases hc⟩
  · obtain ⟨k, hk⟩ := Option.isSome_iff_exists.1 hterminal
    rcases hfits with hsupplied | hfits
    · simp [penalty, hsupplied, Penalty.fault] at hpenalty
    · exact .leaf hk (hfits.spans k hk)
  · rw [symbol?, haside hextra]
    rfl

/-- Parts between which something is missing or too much. -/
theorem sound_error {parts : List Node} {place : Place} (hparts : ∀ n ∈ parts, n.Stands good text)
    (hlast : ∀ n ∈ parts.getLast?, n.isExtra = false) : (build .error parts place).Sound good text := by
  have hpenalty : (build .error parts place).penalty ≠ 0 := penalty_build_fault (Or.inl rfl)
  refine ⟨stands_build hparts fun hzero => absurd hzero hpenalty, fun hzero => absurd hzero hpenalty,
    fun _ hzero => absurd hzero hpenalty, hpenalty, fun _ c hc => ⟨hlast c hc, ?_⟩⟩
  show c.stop = (parts.getLast?.map (·.stop)).getD place
  rw [show parts.getLast? = some c from hc]
  rfl

theorem sound_skipped {parts : List Node} {place : Place} (hparts : ∀ n ∈ parts, n.Stands good text) :
    (build .skipped parts place).Sound good text := by
  have hpenalty : (build .skipped parts place).penalty ≠ 0 := penalty_build_fault (Or.inr rfl)
  exact ⟨stands_build hparts fun hzero => absurd hzero hpenalty, fun hzero => absurd hzero hpenalty,
    fun _ hzero => absurd hzero hpenalty, ⟨hpenalty, rfl⟩, fun herror => by simp [build, isError] at herror⟩

/-- What a rule makes of its parts. -/
theorem sound_rule {k : Nat} {parts : List Node} {place : Place} (hparts : ∀ n ∈ parts, n.Stands good text)
    (hfits : AreFree parts → (build (.rule k) parts place).Fits text) :
    (build (.rule k) parts place).Sound good text := by
  have hfits : (build (.rule k) parts place).penalty = 0 → (build (.rule k) parts place).Fits text :=
    fun hpenalty => hfits (penalty_build_rule.1 hpenalty)
  exact ⟨stands_build hparts hfits, hfits, (fun hextra => by cases hextra), penalty_build_rule,
    fun herror => by simp [build, isError] at herror⟩

/-- Where nodes that follow each other begin. -/
theorem Laid.start {ns : List Node} {i j : Nat} {place : Place} (h : Laid i ns j) (hplace : place.index = i) :
    i ≤ ((ns.head?.map (·.start)).getD place).index ∧ Laid ((ns.head?.map (·.start)).getD place).index ns j := by
  cases ns with
  | nil => exact ⟨hplace.ge, hplace.trans_le h⟩
  | cons n ns => exact ⟨h.1, le_rfl, h.2⟩

end LuaAtlas.Syntax.Node
