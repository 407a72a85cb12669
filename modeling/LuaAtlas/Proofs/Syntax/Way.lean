/-
Ways that readings take. A reading goes from state to state and from place to place, by nodes that are put on the stack
and by gaps where it breaks off. Behind a gap text is being skipped, and only a fault leads out of that: so a way of
nodes without faults that ends where text is not skipped has no gap, follows the steps of the automaton, and what a
rule makes of it stands in the text.
-/
import LuaAtlas.Proofs.Syntax.Node

namespace LuaAtlas.Syntax

open Automaton

/-- Where a reading has come to: a state at a place. -/
structure Spot where
  state : Nat
  place : Place

namespace Node

/-- Whether nothing can come behind the node: it is the end of the text, or an error node that holds nothing. -/
def closes (n : Node) : Bool := n.isEof || n.isError && n.children.isEmpty

/-- How a node leads from one state to another. -/
inductive Enters (n : Node) : Nat → Nat → Prop
  /-- Text is skipped from here on. -/
  | lost {p : Nat} : Enters n p skipping
  | closing {p q : Nat} : n.closes = true → Enters n p q
  | extra {p : Nat} : n.isExtra = true → n.isSkipped = false → Enters n p p
  | step {p q : Nat} {σ : Symbol} : n.isExtra = false → n.symbol? = some σ → (σ, q) ∈ steps p → Enters n p q

/-- The number of nodes that are not extra. -/
def count (ns : List Node) : Nat := ns.countP (!·.isExtra)

theorem count_append (ns ms : List Node) : count (ns ++ ms) = count ns + count ms := List.countP_append

theorem count_cons_extra {n : Node} (h : n.isExtra = true) (ns : List Node) : count (n :: ns) = count ns :=
  List.countP_cons_of_neg (by simp [h])

theorem count_cons {n : Node} (h : n.isExtra = false) (ns : List Node) : count (n :: ns) = count ns + 1 :=
  List.countP_cons_of_pos (by simp [h])

theorem count_extras {ns : List Node} (h : ∀ n ∈ ns, n.isExtra = true) : count ns = 0 :=
  List.countP_eq_zero.2 fun n hn => by simp [h n hn]

end Node

open Node

section

variable (good : Token → Prop) (text : List Char)

/-- A node that leads from one spot to another. -/
structure Joins (a : Spot) (n : Node) (b : Spot) : Prop where
  sound : n.Sound good text
  enters : n.Enters a.state b.state
  stop : n.stop = b.place
  isIn : b.place.IsIn text
  after : Laid a.place.index n.intact b.place.index

/-- A way from one spot to another, with the nodes on it in reading order and the number of those that are not extra,
gaps among them. -/
inductive Way : Spot → List Node → Nat → Spot → Prop
  | stay (a : Spot) : Way a [] 0 a
  | pass {a b c : Spot} {n : Node} {ns : List Node} {d : Nat} : Joins good text a n b → n.closes = false →
      Way b ns d c → Way a (n :: ns) (if n.isExtra then d else d + 1) c
  | gap {a b c : Spot} {ns : List Node} {d : Nat} : a.place = b.place → b.state = skipping → Way b ns d c →
      Way a ns (d + 1) c

end

variable {good : Token → Prop} {text : List Char} {a b c : Spot} {ns : List Node} {d : Nat}

/-- How a node leads to where text is not skipped: an extra one leads nowhere, any other along a step. -/
theorem Joins.step_or_extra {n : Node} (h : Joins good text a n b) (hcloses : n.closes = false)
    (hb : b.state ≠ skipping) : n.isSkipped = false ∧
      (n.isExtra = true ∧ a.state = b.state ∨
        n.isExtra = false ∧ ∃ σ, n.symbol? = some σ ∧ (σ, b.state) ∈ steps a.state) := by
  have henters := h.enters
  generalize a.state = p at henters ⊢
  generalize b.state = q at henters hb ⊢
  cases henters with
  | lost => exact absurd rfl hb
  | closing h =>
    rw [hcloses] at h
    cases h
  | extra hextra hskipped => exact ⟨hskipped, Or.inl ⟨hextra, rfl⟩⟩
  | step hextra hσ hstep =>
    refine ⟨?_, Or.inr ⟨hextra, _, hσ, hstep⟩⟩
    cases n with
    | leaf t e => rfl
    | tree head cs e d =>
      refine decide_eq_false ?_
      rintro rfl
      cases hσ

/-- The extra node of what could not be read leads on from where it begins. -/
theorem joins_error {parts : List Node} (hstands : ∀ n ∈ parts, n.Stands good text)
    (hlast : ∀ n ∈ parts.getLast?, n.isExtra = false) (hin : (endOf a.place parts).IsIn text)
    (hlaid : Laid a.place.index (allIntact parts) (endOf a.place parts).index) :
    Joins good text a ((build .error parts a.place).setExtra true) ⟨a.state, endOf a.place parts⟩ := by
  have hsound : ((build .error parts a.place).setExtra true).Sound good text :=
    (sound_error hstands hlast).setExtra rfl fun _ hzero => absurd hzero (penalty_build_fault (Or.inl rfl))
  exact ⟨hsound, .extra rfl rfl, rfl, hin, laid_intact_setExtra (laid_intact_build (Or.inl rfl) hlaid) true⟩

namespace Way

theorem sound (h : Way good text a ns d c) : ∀ n ∈ ns, n.Sound good text ∧ n.closes = false := by
  induction h with
  | stay a => exact fun n hn => by cases hn
  | pass hjoins hcloses _ ih =>
    intro m hm
    rcases List.mem_cons.1 hm with rfl | hm
    · exact ⟨hjoins.sound, hcloses⟩
    · exact ih m hm
  | gap _ _ _ ih => exact ih

theorem stands (h : Way good text a ns d c) : ∀ n ∈ ns, n.Stands good text := fun n hn => (h.sound n hn).1.stands

/-- The nodes on a way lead from its first place to its last. -/
theorem follows (h : Way good text a ns d c) : Follows text a.place ns c.place := by
  induction h with
  | stay a => rfl
  | pass hjoins _ _ ih =>
    refine ⟨?_, ?_, ?_⟩
    · rw [hjoins.stop]
      exact hjoins.after
    · rw [hjoins.stop]
      exact hjoins.isIn
    · rw [hjoins.stop]
      exact ih
  | gap hplace _ _ ih =>
    rw [hplace]
    exact ih

theorem split {xs ys : List Node} (h : Way good text a ns d c) (hns : ns = xs ++ ys) : ∃ b d₁ d₂,
    Way good text a xs d₁ b ∧ Way good text b ys d₂ c ∧ d = d₁ + d₂ := by
  induction h generalizing xs with
  | stay a =>
    obtain ⟨rfl, rfl⟩ := List.append_eq_nil_iff.1 hns.symm
    exact ⟨a, 0, 0, .stay a, .stay a, rfl⟩
  | @pass a b c n ns d hjoins hcloses hway ih =>
    cases xs with
    | nil =>
      obtain rfl : n :: ns = ys := hns
      exact ⟨a, 0, _, .stay a, .pass hjoins hcloses hway, (Nat.zero_add _).symm⟩
    | cons x xs =>
      obtain ⟨rfl, rfl⟩ := List.cons_eq_cons.1 hns
      obtain ⟨e, d₁, d₂, hfirst, hrest, rfl⟩ := ih rfl
      refine ⟨e, _, d₂, .pass hjoins hcloses hfirst, hrest, ?_⟩
      split <;> omega
  | gap hplace hstate _ ih =>
    obtain ⟨e, d₁, d₂, hfirst, hrest, rfl⟩ := ih hns
    exact ⟨e, d₁ + 1, d₂, .gap hplace hstate hfirst, hrest, by omega⟩

/-- Extra nodes lead nowhere, unless to where text is skipped. -/
theorem extras (h : Way good text a ns d c) (hns : ∀ n ∈ ns, n.isExtra = true) (hc : c.state ≠ skipping) :
    a.state = c.state ∧ d = 0 := by
  induction h with
  | stay a => exact ⟨rfl, rfl⟩
  | @pass a b c n ns d hjoins hcloses hway ih =>
    obtain ⟨hstate, rfl⟩ := ih (fun m hm => hns m (List.mem_cons_of_mem _ hm)) hc
    have hextra := hns n (List.mem_cons_self ..)
    refine ⟨?_, if_pos hextra⟩
    rcases (hjoins.step_or_extra hcloses (hstate ▸ hc)).2 with ⟨-, heq⟩ | ⟨hne, -⟩
    · exact heq.trans hstate
    · rw [hextra] at hne
      cases hne
  | gap _ hskipping _ ih =>
    obtain ⟨hstate, -⟩ := ih hns hc
    exact absurd (hstate.symm.trans hskipping) hc

/-- A way of nodes without faults does not pass where text is skipped, unless it ends there. -/
theorem clean (h : Way good text a ns d c) (hns : AreFree ns) (hc : c.state ≠ skipping) :
    a.state ≠ skipping ∧ (∀ n ∈ ns, n.penalty = 0) ∧ d = count ns := by
  induction h with
  | stay a => exact ⟨hc, List.forall_mem_nil _, rfl⟩
  | @pass a b c n ns d hjoins hcloses hway ih =>
    obtain ⟨hb, hpenalty, rfl⟩ := ih (fun m hm => hns m (List.mem_cons_of_mem _ hm)) hc
    obtain ⟨hskipped, hstep⟩ := hjoins.step_or_extra hcloses hb
    have hn : n.penalty = 0 := (hns n (List.mem_cons_self ..)).resolve_left (by simp [hskipped])
    have hall : ∀ m ∈ n :: ns, m.penalty = 0 := List.forall_mem_cons.2 ⟨hn, hpenalty⟩
    rcases hstep with ⟨hextra, heq⟩ | ⟨hextra, σ, -, hstep⟩
    · rw [if_pos hextra, count_cons_extra hextra]
      exact ⟨heq ▸ hb, hall, rfl⟩
    · rw [if_neg (by simp [hextra]), count_cons hextra]
      exact ⟨source_ne_skipping hstep, hall, rfl⟩
  | gap _ hskipping _ ih =>
    obtain ⟨hb, -⟩ := ih hns hc
    exact absurd hskipping hb

/-- The symbols on a way without faults are a word that leads to its last state. -/
theorem allWords {check : List Symbol → Bool} {m : Nat} {w : List Symbol} (h : Way good text a ns d c)
    (hns : AreFree ns) (hc : c.state ≠ skipping) (hwords : Automaton.allWords check (m + count ns) c.state w = true) :
    Automaton.allWords check m a.state (symbols ns ++ w) = true := by
  induction h generalizing m with
  | stay a => exact hwords
  | @pass a b c n ns d hjoins hcloses hway ih =>
    have hfree : AreFree ns := fun m hm => hns m (List.mem_cons_of_mem _ hm)
    rcases (hjoins.step_or_extra hcloses (hway.clean hfree hc).1).2 with ⟨hextra, heq⟩ | ⟨hextra, σ, hσ, hstep⟩
    · rw [count_cons_extra hextra] at hwords
      rw [symbols_cons_extra hextra, heq]
      exact ih hfree hc hwords
    · rw [count_cons hextra, ← Nat.add_assoc, Nat.add_right_comm] at hwords
      rw [symbols_cons hextra hσ]
      exact allWords_step (ih hfree hc hwords) hstep
  | gap _ hskipping hway ih => exact absurd hskipping (hway.clean hns hc).1

/-- A way of one node takes one step. -/
theorem single {n : Node} (h : Way good text a ns d c) (hns : ns = [n]) (hn : n.isExtra = false)
    (hc : c.state ≠ skipping) : ∃ s σ, n.symbol? = some σ ∧ (σ, c.state) ∈ steps s := by
  induction h with
  | stay a => cases hns
  | @pass a b c m ms d hjoins hcloses hway ih =>
    obtain ⟨rfl, rfl⟩ := List.cons_eq_cons.1 hns
    have hb : b.state = c.state := (hway.extras (List.forall_mem_nil _) hc).1
    rw [← hb] at hc ⊢
    rcases (hjoins.step_or_extra hcloses hc).2 with ⟨hextra, -⟩ | ⟨-, σ, hσ, hstep⟩
    · rw [hn] at hextra
      cases hextra
    · exact ⟨_, σ, hσ, hstep⟩
  | gap _ _ _ ih => exact ih hns hc

/-- The last node that is not extra takes a step to where a way without faults ends. -/
theorem last_step {xs extras : List Node} {n : Node} (h : Way good text a ns d c) (hns : ns = xs ++ [n] ++ extras)
    (hn : n.isExtra = false) (hextras : ∀ m ∈ extras, m.isExtra = true) (hc : c.state ≠ skipping) :
    ∃ s σ, n.symbol? = some σ ∧ (σ, c.state) ∈ steps s := by
  obtain ⟨b, d₁, d₂, hparts, hrest, -⟩ := h.split hns
  have hb := (hrest.extras hextras hc).1
  obtain ⟨e, d₁, d₂, -, hlast, -⟩ := hparts.split rfl
  rw [← hb] at hc ⊢
  exact hlast.single rfl hn hc

end Way

/-! ## Applying a rule -/

namespace Symbol

theorem Spells.enclosed {σ : Symbol} {cs : List Char} (h : σ.Spells cs) (hσ : σ.isEnclosed = true) :
    ∃ opening inner closing, Delimiters opening closing ∧ cs = opening ++ inner ++ closing := by
  cases σ with
  | terminal t => cases hσ
  | made n => exact h hσ

theorem spells_made {n : Nonterminal} {cs : List Char} (h : (made n).isEnclosed = true →
    ∃ opening inner closing, Delimiters opening closing ∧ cs = opening ++ inner ++ closing) : (made n).Spells cs := h

theorem areEnclosed_append (σ τ : Symbol) (w : List Symbol) : areEnclosed (σ :: (w ++ [τ])) = σ.encloses τ := by
  cases w with
  | nil => rfl
  | cons υ w => simp [areEnclosed]

end Symbol

theorem laid_start_last : ∀ {ms : List Node} {n : Node} {i j : Nat}, (∀ m ∈ ms, m.Fits text) → Laid i (ms ++ [n]) j →
    i ≤ n.start.index
  | [], _, _, _, _, h => h.1
  | m :: _, _, _, _, hms, h =>
    h.1.trans ((hms m (List.mem_cons_self ..)).le.trans
      (laid_start_last (fun k hk => hms k (List.mem_cons_of_mem _ hk)) h.2))

/-- A way that a rule is applied to: it has as many nodes as the rule has parts, counted from above, and the rule is
complete where it ends, or makes a comment. -/
structure IsReduced (good : Token → Prop) (text : List Char) (k : Nat) (a : Spot) (ns : List Node) (c : Spot) :
    Prop where
  way : Way good text a ns (Rule.get k).size c
  isIn : a.place.IsIn text
  tight : ∀ n ms, ns = n :: ms → count ms < (Rule.get k).size
  ne_skipping : c.state ≠ skipping
  rule : (Rule.get k).makes = .comment ∨ k ∈ complete c.state

namespace IsReduced

variable {k : Nat} {parts extras : List Node}

/-- The part of the way that the rule's own parts take. -/
theorem way_parts (h : IsReduced good text k a ns c) (hsplit : splitExtras ns = (parts, extras))
    (hfree : AreFree parts) :
    ∃ b, Way good text a parts (Rule.get k).size b ∧ b.state = c.state ∧ (Rule.get k).size = count parts ∧
      (∀ n ∈ parts, n.penalty = 0) ∧ ∀ n ∈ parts.head?, n.isExtra = false := by
  obtain ⟨hns, hextras, -⟩ := splitExtras_spec hsplit
  obtain ⟨b, d₁, d₂, hparts, hrest, hsize⟩ := h.way.split hns.symm
  obtain ⟨hb, rfl⟩ := hrest.extras hextras h.ne_skipping
  obtain ⟨-, hpenalty, rfl⟩ := hparts.clean hfree (hb ▸ h.ne_skipping)
  refine ⟨b, by rw [hsize]; exact hparts, hb, hsize, hpenalty, fun n hn => ?_⟩
  obtain ⟨ps, rfl⟩ := List.head?_eq_some_iff.1 hn
  have htight := h.tight n (ps ++ extras) hns.symm
  rw [hsize, count_append, count_extras hextras] at htight
  cases hextra : n.isExtra with
  | false => rfl
  | true =>
    rw [count_cons_extra hextra] at htight
    omega

/-- What has to hold of all words that lead to where a rule is complete holds of the symbols of its parts. -/
theorem passes (h : IsReduced good text k a ns c) (hsplit : splitExtras ns = (parts, extras)) (hfree : AreFree parts)
    {check : List Symbol → Bool} (hwords : Automaton.allWords check (Rule.get k).size c.state [] = true) :
    check (symbols parts) = true := by
  obtain ⟨b, hway, hb, hsize, -, -⟩ := h.way_parts hsplit hfree
  rw [← hb, hsize, ← Nat.zero_add (count parts)] at hwords
  have hsymbols : check (symbols parts ++ []) = true := hway.allWords hfree (hb ▸ h.ne_skipping) hwords
  rwa [List.append_nil] at hsymbols

/-- The text of the parts of a string lies between its delimiters. -/
theorem enclosed (h : IsReduced good text k a ns c) (hsplit : splitExtras ns = (parts, extras))
    (hfree : AreFree parts) (hmakes : (Symbol.made (Rule.get k).makes).isEnclosed = true) :
    ∃ opening inner closing, Delimiters opening closing ∧
      ((build (.rule k) parts a.place).start.textTo (build (.rule k) parts a.place).stop).toList =
        opening ++ inner ++ closing := by
  obtain ⟨b, hway, -, -, hpenalty, hfirst⟩ := h.way_parts hsplit hfree
  have hfits : ∀ n ∈ parts, n.Fits text := fun n hn => (hway.sound n hn).1.fits (hpenalty n hn)
  have hk : k ∈ complete c.state := h.rule.resolve_left fun hcomment => by rw [hcomment] at hmakes; cases hmakes
  have hsymbols := h.passes hsplit hfree (areEnclosed_of_complete hk hmakes)
  have hlast := (splitExtras_spec hsplit).2.2
  have hlaid := hway.follows.laid hpenalty
  cases parts with
  | nil => cases hsymbols
  | cons n ps =>
    obtain ⟨σ, hσ, hspans⟩ := (hfits n (List.mem_cons_self ..)).spans
    rcases List.eq_nil_or_concat' ps with rfl | ⟨ms, m, rfl⟩
    · rw [symbols_cons (hfirst n rfl) hσ] at hsymbols
      exact hspans.spells.enclosed hsymbols
    · have hm : m ∈ n :: (ms ++ [m]) := by simp
      obtain ⟨τ, hτ, hspans'⟩ := (hfits m hm).spans
      have hmExtra : m.isExtra = false := hlast m (by rw [← List.cons_append]; exact List.getLast?_concat)
      rw [symbols_cons (hfirst n rfl) hσ, symbols_append, symbols_cons hmExtra hτ] at hsymbols
      have hencloses : σ.encloses τ = true := by
        rw [← Symbol.areEnclosed_append σ τ (symbols ms)]
        exact hsymbols
      have hbetween : n.stop.index ≤ m.start.index :=
        laid_start_last (fun k hk => hfits k (by simp [hk])) hlaid.2
      have hstart : (build (.rule k) (n :: (ms ++ [m])) a.place).start = n.start := rfl
      have hstop : (build (.rule k) (n :: (ms ++ [m])) a.place).stop = m.stop := by
        show endOf a.place (n :: (ms ++ [m])) = m.stop
        rw [← List.cons_append, endOf_append]
        rfl
      refine ⟨_, (n.stop.textTo m.start).toList, _,
        Symbol.delimiters_of_encloses hencloses hspans.spells hspans'.spells, ?_⟩
      rw [hstart, hstop, Place.textTo_append hspans.start_isIn hspans.stop_isIn hspans.le
          (hbetween.trans hspans'.le), Place.textTo_append hspans.stop_isIn hspans'.start_isIn hbetween hspans'.le,
        String.toList_append, String.toList_append, List.append_assoc]

/-- The last part of a rule has some text. -/
theorem proper (h : IsReduced good text k a ns c) (hsplit : splitExtras ns = (parts, extras))
    (hfree : AreFree parts) (hmakes : (Symbol.made (Rule.get k).makes).mayBeEmpty = false) :
    (build (.rule k) parts a.place).start.index < (build (.rule k) parts a.place).stop.index := by
  obtain ⟨b, hway, hb, hsize, hpenalty, -⟩ := h.way_parts hsplit hfree
  have hfits : ∀ n ∈ parts, n.Fits text := fun n hn => (hway.sound n hn).1.fits (hpenalty n hn)
  have hk : k ∈ complete c.state := h.rule.resolve_left fun hcomment => by rw [hcomment] at hmakes; cases hmakes
  obtain ⟨-, hchunk, -⟩ := complete_rule hk
  have hlaid := (hway.follows.laid hpenalty).start rfl
  rcases List.eq_nil_or_concat' parts with rfl | ⟨ms, m, rfl⟩
  · rw [hchunk hsize] at hmakes
    cases hmakes
  · have hm : m ∈ ms ++ [m] := by simp
    have hmExtra : m.isExtra = false := (splitExtras_spec hsplit).2.2 m (by simp)
    obtain ⟨e, d₁, d₂, -, hlast, -⟩ := hway.split rfl
    obtain ⟨s, σ, hσ, hstep⟩ := hlast.single rfl hmExtra (hb ▸ h.ne_skipping)
    have hσEmpty : σ.mayBeEmpty = false := by
      cases hempty : σ.mayBeEmpty with
      | false => rfl
      | true =>
        rw [← hb, (isStep_of_mem hstep).complete_of_mayBeEmpty hempty] at hk
        cases hk
    have hproper := ((hfits m hm).spans_of hσ).proper hσEmpty
    have hstop : (build (.rule k) (ms ++ [m]) a.place).stop = m.stop := by
      show endOf a.place (ms ++ [m]) = m.stop
      rw [endOf_append]
      rfl
    rw [hstop]
    exact (laid_start_last (fun k hk => hfits k (by simp [hk])) hlaid.2).trans_lt hproper

/-- The parts of a rule are such as it can have. -/
theorem arranged (h : IsReduced good text k a ns c) (hsplit : splitExtras ns = (parts, extras)) (hfree : AreFree parts) :
    Arranged (Rule.get k).makes parts := by
  obtain ⟨b, hway, -, -, hpenalty, -⟩ := h.way_parts hsplit hfree
  refine ⟨fun n hn hextra => (hway.sound n hn).1.aside hextra (hpenalty n hn), fun check hcheck => ?_⟩
  rcases h.rule with hcomment | hk
  · rw [hcomment] at hcheck
    cases hcheck
  · exact h.passes hsplit hfree (checked_of_complete hk check hcheck)

/-- What a rule makes of parts without faults stands in the text, behind the place where the way begins. -/
theorem fits (h : IsReduced good text k a ns c) (hsplit : splitExtras ns = (parts, extras)) (hfree : AreFree parts) :
    (build (.rule k) parts a.place).Fits text ∧ a.place.index ≤ (build (.rule k) parts a.place).start.index := by
  obtain ⟨b, hway, -, -, hpenalty, -⟩ := h.way_parts hsplit hfree
  have hfits : ∀ n ∈ parts, n.Fits text := fun n hn => (hway.sound n hn).1.fits (hpenalty n hn)
  have hfollows := hway.follows
  have hstop : (build (.rule k) parts a.place).stop = b.place := hfollows.endOf_eq
  obtain ⟨hle, hlaid⟩ := (hfollows.laid hpenalty).start rfl
  have hstart : (build (.rule k) parts a.place).start.IsIn text := by
    cases parts with
    | nil => exact h.isIn
    | cons n ps =>
      obtain ⟨σ, -, hspans⟩ := (hfits n (List.mem_cons_self ..)).spans
      exact hspans.start_isIn
  refine ⟨.tree ⟨hstart, ?_, ?_, h.proper hsplit hfree, Symbol.spells_made (h.enclosed hsplit hfree),
    fun heof => by cases heof⟩ hfits ?_ (h.arranged hsplit hfree), hle⟩
  · show (build (.rule k) parts a.place).stop.IsIn text
    rw [hstop]
    exact hfollows.isIn h.isIn
  · show _ ≤ (build (.rule k) parts a.place).stop.index
    rw [hstop]
    exact Laid.le hfits hlaid
  · show Laid _ parts (build (.rule k) parts a.place).stop.index
    rw [hstop]
    exact hlaid

/-- What is intact in what a rule makes follows the place where the way begins. -/
theorem laid_intact (h : IsReduced good text k a ns c) (hsplit : splitExtras ns = (parts, extras)) :
    Laid a.place.index (build (.rule k) parts a.place).intact (build (.rule k) parts a.place).stop.index := by
  by_cases hpenalty : (build (.rule k) parts a.place).penalty = 0
  · rw [intact_of_penalty hpenalty]
    exact ⟨(h.fits hsplit (penalty_build_rule.1 hpenalty)).2, le_rfl⟩
  · have hfollows := h.way.follows
    rw [← (splitExtras_spec hsplit).1, Follows.append_iff] at hfollows
    rw [intact_of_fault hpenalty]
    exact hfollows.1.laid_allIntact

/-- What a rule makes of the parts on a way is put together as it should be. -/
theorem sound (h : IsReduced good text k a ns c) (hsplit : splitExtras ns = (parts, extras)) :
    (build (.rule k) parts a.place).Sound good text := by
  have hstands : ∀ n ∈ parts, n.Stands good text := fun n hn =>
    h.way.stands n ((splitExtras_spec hsplit).1 ▸ List.mem_append_left _ hn)
  exact sound_rule hstands fun hfree => (h.fits hsplit hfree).1

end IsReduced

end LuaAtlas.Syntax
