/-
Reading a text. Whatever a reader does with its stack, with all its repairs, keeps the stack sound: a token is put on
it where the automaton takes it, a rule is applied where it is complete, and what a repair puts on it is an error node,
a skipped one or a supplied token. So a reading that comes to the end of the text without a fault gives a tree that
stands in the text, and every token of any tree is one that was found in the text, one that was supplied, or a keyword
that was taken as a name. What reading goes back over is put into an error node, so what is intact in any tree is there
in reading order.
-/
import LuaAtlas.Syntax.Reader
import LuaAtlas.Proofs.Syntax.Stack

namespace LuaAtlas.Syntax

open Node

/-- What tokens have to satisfy for all tokens of a tree to be good. -/
structure TokenLaws (good : Token → Prop) : Prop where
  found : ∀ s v level, good (Reader.token s v level).1
  supplied : ∀ terminal place, good
    { terminal? := some terminal, before := place, start := place, stop := place, isSupplied := true }
  renamed : ∀ t terminal, good t → t.terminal? = some terminal →
    Terminal.keyword? (t.start.textTo t.stop) = some terminal → good { t with terminal? := some .name }

/-- What a reading that has come to the end of the text gives. -/
structure Node.IsRoot (good : Token → Prop) (text : List Char) (n : Node) : Prop where
  stands : n.Stands good text
  fits : n.penalty = 0 → n.Fits text
  laid : ∃ i j, Laid i (allIntact n.children) j

/-- A reader with a sound stack and a sound result. -/
structure Reader.Sound (good : Token → Prop) (text : List Char) (r : Reader) : Prop where
  stack : r.stack.Sound good text
  finished : ∀ n ∈ r.finished?, n.IsRoot good text

namespace Reader

variable {good : Token → Prop} {text : List Char} {s s' s'' : Stack} {v : Nat}

/-- A sound reader that follows at least `m` readings. -/
structure Grown (good : Token → Prop) (text : List Char) (m : Nat) (r : Reader) : Prop where
  sound : r.Sound good text
  le : m ≤ r.stack.size

/-! ## Choosing between readings -/

/-- What a rule makes of a reading that leads from the spot `a` to the spot `c`, with the extra nodes behind it. -/
structure Chosen (good : Token → Prop) (text : List Char) (k : Nat) (a c : Spot) (p : Node × List Node) : Prop where
  sound : p.1.Sound good text
  built : ∃ parts, p.1 = build (.rule k) parts a.place
  after : Laid a.place.index p.1.intact p.1.stop.index
  stop : p.1.stop.IsIn text
  extras : ∀ n ∈ p.2, n.isExtra = true ∧ n.Sound good text ∧ n.closes = false
  follows : Follows text p.1.stop p.2 c.place

variable {k : Nat} {a c : Spot} {p : Node × List Node}

theorem chosen_of_isReduced {ns : List Node} (h : IsReduced good text k a ns c) :
    Chosen good text k a c (build (.rule k) (splitExtras ns).1 a.place, (splitExtras ns).2) := by
  have hsplit : splitExtras ns = ((splitExtras ns).1, (splitExtras ns).2) := rfl
  obtain ⟨hns, hextras, -⟩ := splitExtras_spec hsplit
  have hfollows := h.way.follows
  rw [← hns, Follows.append_iff] at hfollows
  exact ⟨h.sound hsplit, ⟨_, rfl⟩, h.laid_intact hsplit, hfollows.1.isIn h.isIn,
    fun n hn => ⟨hextras n hn, h.way.sound n (hns ▸ List.mem_append_right _ hn)⟩, hfollows.2⟩

theorem chosen_choose : ∀ {readings : List (List Node)}, readings ≠ [] →
    (∀ ns ∈ readings, IsReduced good text k a ns c) → Chosen good text k a c (choose (.rule k) a.place readings)
  | [], hne, _ => absurd rfl hne
  | first :: others, _, h => by
    rw [choose]
    refine List.foldlRecOn (motive := fun p => Chosen good text k a c p) _ _ ?_ fun p hp other hother => ?_
    · exact chosen_of_isReduced (h first (List.mem_cons_self ..))
    · dsimp only
      split
      · exact chosen_of_isReduced (h other (List.mem_cons_of_mem _ hother))
      · exact hp

/-! ## Applying a rule -/

/-- Whether a rule can be applied in a state: that of a comment behind the whole of it, any other where it is
complete. -/
def CanReduce (state rule : Nat) : Bool → Prop
  | true => (Rule.get rule).makes = .comment ∧ state ≠ Automaton.skipping
  | false => rule ∈ Automaton.complete state

theorem CanReduce.ne_skipping {state rule : Nat} {isComment : Bool} (h : CanReduce state rule isComment) :
    state ≠ Automaton.skipping := by
  cases isComment with
  | true => exact h.2
  | false =>
    rintro rfl
    rw [CanReduce, Automaton.complete_skipping] at h
    cases h

theorem CanReduce.rule {state rule : Nat} {isComment : Bool} (h : CanReduce state rule isComment) :
    (Rule.get rule).makes = .comment ∨ rule ∈ Automaton.complete state := by
  cases isComment with
  | true => exact Or.inl h.1
  | false => exact Or.inr h

/-- A group of readings that a rule can be applied to. -/
theorem isReduced_of_isGroup (hs : s.Sound good text) {c : Spot} {g : Nat × List (List Node)} {isComment : Bool}
    (hcan : CanReduce c.state k isComment) (hg : s.IsGroup good text (Rule.get k).size c g) :
    ∀ ns ∈ g.2, IsReduced good text k (s.spot g.1) ns c := fun ns hns =>
  ⟨hg.way ns hns, hs.isIn g.1 hg.lt, hg.tight ns hns, hcan.ne_skipping, hcan.rule⟩

/-- The node that a rule makes leads where the automaton goes with it. -/
theorem Chosen.joins (h : Chosen good text k a c p) {isComment : Bool} (hcan : CanReduce c.state k isComment) :
    Joins good text a (p.1.setExtra (isComment && Automaton.goto a.state (Rule.get k).makes = a.state))
      ⟨Automaton.goto a.state (Rule.get k).makes, p.1.stop⟩ := by
  obtain ⟨parts, hbuilt⟩ := h.built
  have hsound := h.sound
  have hafter := h.after
  have hstop := h.stop
  rw [hbuilt] at hsound hafter hstop ⊢
  refine ⟨hsound.setExtra rfl fun hextra _ => ?_, ?_, rfl, hstop, laid_intact_setExtra hafter _⟩
  · obtain rfl : isComment = true := (Bool.and_eq_true_iff.1 hextra).1
    exact Or.inl (congrArg (some ∘ Symbol.made) hcan.1)
  cases isComment with
  | true =>
    rw [hcan.1, Automaton.goto_comment, decide_eq_true rfl, Bool.and_self]
    exact .extra (isExtra_setExtra _ true) rfl
  | false =>
    rcases Automaton.mem_steps_goto (s := a.state) (Automaton.complete_rule hcan).1 with hlost | hstep
    · rw [hlost]
      exact .lost
    · dsimp only
      exact .step rfl rfl hstep

theorem Chosen.closes (h : Chosen good text k a c p) (isExtra : Bool) : (p.1.setExtra isExtra).closes = false := by
  obtain ⟨parts, hbuilt⟩ := h.built
  rw [hbuilt]
  rfl

/-- What applying rules on the branch `v` does to a stack: there are new branches, which have come as far as `v`. -/
structure Reduced (good : Token → Prop) (text : List Char) (s : Stack) (v : Nat) (s' : Stack) : Prop where
  sound : s'.Sound good text
  ext : s.Extends s'
  size_le : s.size ≤ s'.size
  old : ∀ j < s.size, (s'.branch j).vertex = (s.branch j).vertex ∧ (s'.branch j).status = (s.branch j).status
  new : ∀ j, s.size ≤ j → j < s'.size → s'.IsLive j ∧ s'.place j = s.place v

namespace Reduced

theorem refl (h : s.Sound good text) : Reduced good text s v s :=
  ⟨h, .refl s, le_rfl, fun _ _ => ⟨rfl, rfl⟩, fun _ hle hlt => absurd hle (Nat.not_le_of_lt hlt)⟩

theorem isLive_of_le (h : Reduced good text s v s') {j : Nat} (hj : s.size ≤ j) : s'.IsLive j := by
  rcases Nat.lt_or_ge j s'.size with hlt | hge
  · exact (h.new j hj hlt).1
  · exact Stack.isLive_of_size_le hge

theorem keeps (h : Reduced good text s v s') : s.Keeps s' := by
  intro j hj
  rcases Nat.lt_or_ge j s.size with hlt | hge
  · exact (h.old j hlt).2.trans hj
  · exact h.isLive_of_le hge

theorem spot_old (h : Reduced good text s v s') (hs : s.Sound good text) {j : Nat} (hj : j < s.size) :
    s'.spot (s'.branch j).vertex = s.spot (s.branch j).vertex := by
  rw [(h.old j hj).1]
  exact h.ext.spot_eq _ (hs.branch j).lt

theorem trans (h : Reduced good text s v s') (h' : Reduced good text s' v s'') (hs : s.Sound good text)
    (hv : v < s.size) : Reduced good text s v s'' := by
  refine ⟨h'.sound, h.ext.trans h'.ext, h.size_le.trans h'.size_le, fun j hj => ?_, fun j hle hlt => ?_⟩
  · have hj' := h'.old j (hj.trans_le h.size_le)
    exact ⟨hj'.1.trans (h.old j hj).1, hj'.2.trans (h.old j hj).2⟩
  · rcases Nat.lt_or_ge j s'.size with hlt' | hge
    · obtain ⟨hlive, hplace⟩ := h.new j hle hlt'
      exact ⟨h'.keeps j hlive, (congrArg Spot.place (h'.spot_old h.sound hlt')).trans hplace⟩
    · obtain ⟨hlive, hplace⟩ := h'.new j hge hlt
      exact ⟨hlive, hplace.trans (congrArg Spot.place (h.spot_old hs hv))⟩

/-- A node and extra nodes are put on a new branch. -/
theorem add (h : Reduced good text s v s') {b : Branch} (hb : s'.BranchSound good text b) (hlive : b.status = .active)
    {n : Node} {extras : List Node} {next : Nat} (hjoins : Joins good text (s'.spot b.vertex) n ⟨next, n.stop⟩)
    (hcloses : n.closes = false)
    (hextras : ∀ m ∈ extras, m.isExtra = true ∧ m.Sound good text ∧ m.closes = false)
    (hfollows : Follows text n.stop extras (s.place v)) :
    Reduced good text s v (((s'.add b).push s'.size (some n) next).pushAll s'.size extras next) ∧
      (((s'.add b).push s'.size (some n) next).pushAll s'.size extras next).size = s'.size + 1 := by
  have hadded := h.sound.add hb
  have hsize := s'.size_add b
  have hbranch : (s'.add b).branch s'.size = b := (Stack.branch_add s' b s'.size).trans (if_pos rfl)
  have hw : s'.size < (s'.add b).size := hsize ▸ Nat.lt_succ_self _
  have hliveAdded : (s'.add b).IsLive s'.size := by
    unfold Stack.IsLive
    rw [hbranch]
    exact hlive
  have hpushed : ((s'.add b).push s'.size (some n) next).Sound good text :=
    hadded.pushNode hliveAdded (by rw [hbranch]; exact hjoins) hcloses
  have hspot := Stack.spot_push hw (some n) next
  obtain ⟨hsound, hext, hplace, hkeeps, hsizeAll, hbranchAll⟩ := hpushed.pushAll (q := s.place v)
    ((s'.add b).keeps_push s'.size (some n) next _ hliveAdded) (by rw [Stack.size_push]; exact hw)
    (congrArg Spot.state hspot) hextras
    (by rw [show ((s'.add b).push s'.size (some n) next).place s'.size = n.stop from congrArg Spot.place hspot]
        exact hfollows)
  have hextAll := ((Stack.extends_withBranches s' _).trans ((s'.add b).extends_push s'.size (some n) next)).trans hext
  have hsame : ∀ j, j ≠ s'.size →
      (((s'.add b).push s'.size (some n) next).pushAll s'.size extras next).branch j = s'.branch j := by
    intro j hj
    rw [hbranchAll j hj, Stack.branch_push_of_ne hj, Stack.branch_add, if_neg hj]
  have hsizeAll := (hsizeAll.trans (Stack.size_push ..)).trans hsize
  generalize ((s'.add b).push s'.size (some n) next).pushAll s'.size extras next = t at *
  refine ⟨⟨hsound, h.ext.trans hextAll, by have := h.size_le; omega, fun j hj => ?_, fun j hle hlt => ?_⟩, hsizeAll⟩
  · rw [hsame j (hj.trans_le h.size_le).ne]
    exact h.old j hj
  · rcases eq_or_ne j s'.size with rfl | hne
    · exact ⟨hkeeps _ ((s'.add b).keeps_push s'.size (some n) next _ hliveAdded), hplace⟩
    · obtain ⟨hliveOld, hplaceOld⟩ := h.new j hle (by omega)
      refine ⟨?_, (h.sound.place_eq hextAll (congrArg Branch.vertex (hsame j hne))).trans hplaceOld⟩
      unfold Stack.IsLive
      rw [hsame j hne]
      exact hliveOld

/-- The last branch is joined to another. -/
theorem join (h : Reduced good text s v s') {u w : Nat} (hw : s.size ≤ w) (hlast : s'.size = w + 1)
    (hjoin : s'.canJoin u w = true) : Reduced good text s v (s'.join u w) := by
  obtain ⟨hsound, hext, hsize, hbranch⟩ := h.sound.join hjoin
  rw [Stack.size_remove, if_pos (by omega)] at hsize
  have hold : ∀ j < w, ((s'.join u w).branch j).vertex = (s'.branch j).vertex ∧
      ((s'.join u w).branch j).status = (s'.branch j).status := by
    intro j hj
    have hj' := hbranch j
    rwa [if_pos hj] at hj'
  refine ⟨hsound, h.ext.trans hext, by omega, fun j hj => ?_, fun j hle hlt => ?_⟩
  · have hj' := hold j (hj.trans_le hw)
    exact ⟨hj'.1.trans (h.old j hj).1, hj'.2.trans (h.old j hj).2⟩
  · obtain ⟨hvertex, hstatus⟩ := hold j (by omega)
    obtain ⟨hlive, hplace⟩ := h.new j hle (by omega)
    exact ⟨hstatus.trans hlive, (h.sound.place_eq hext hvertex).trans hplace⟩

end Reduced

theorem reduce_reduced (h : s.Sound good text) (hlive : s.IsLive v) {rule : Nat} {isComment : Bool}
    (hcan : CanReduce (s.state v) rule isComment) : Reduced good text s v (reduce s v rule isComment).1 ∧
      ∀ w ∈ (reduce s v rule isComment).2, w = s.size ∧ w < (reduce s v rule isComment).1.size := by
  have hgroups := Stack.isGroup_under h hlive (Rule.get rule).size
  unfold reduce
  dsimp only
  refine ⟨?_, fun w hw => ?_⟩
  · refine List.foldlRecOn (motive := fun s' : Stack => Reduced good text s v s') _ _ (.refl h) fun s' hs' g hg => ?_
    obtain ⟨i, readings⟩ := g
    have hgroup := hgroups _ hg
    have hspot : s'.spot i = s.spot i := hs'.ext.spot_eq i hgroup.lt
    have hchosen : Chosen good text rule (s'.spot i) (s.spot (s.branch v).vertex)
        (choose (.rule rule) (s'.vertex i).place readings) := by
      refine chosen_choose hgroup.nonempty ?_
      rw [hspot]
      exact isReduced_of_isGroup h hcan hgroup
    dsimp only
    split
    · exact hs'
    · have hjoins := hchosen.joins hcan
      have hfollows := hchosen.follows
      rw [← stop_setExtra _ (isComment && _)] at hjoins hfollows
      obtain ⟨hadded, hsize⟩ := hs'.add (b := ⟨i, .active, (s'.branch v).base, (s'.branch v).level?, none⟩)
        ⟨hgroup.lt.trans_le hs'.ext.size_le, fun _ => hs'.ext.isOpen i hgroup.lt hgroup.isOpen, fun t ht => by cases ht⟩
        rfl hjoins (hchosen.closes _) hchosen.extras hfollows
      split
      · rename_i u hu
        exact hadded.join hs'.size_le hsize (Stack.canJoin_of_partner? hu).1
      · exact hadded
  · split at hw
    · rename_i hlt
      cases hw
      exact ⟨rfl, hlt⟩
    · cases hw

/-- What stays of a stack when its readings are gone on with: the first `m` branches stand where they stood. -/
structure Kept (good : Token → Prop) (text : List Char) (m : Nat) (s s' : Stack) : Prop where
  sound : s'.Sound good text
  keeps : s.Keeps s'
  le : m ≤ s'.size
  place_eq : ∀ u < m, s'.place u = s.place u

namespace Kept

variable {m : Nat}

theorem refl (h : s.Sound good text) (hm : m ≤ s.size) : Kept good text m s s := ⟨h, fun _ h => h, hm, fun _ _ => rfl⟩

theorem trans (h : Kept good text m s s') (h' : Kept good text m s' s'') : Kept good text m s s'' :=
  ⟨h'.sound, h.keeps.trans h'.keeps, h'.le, fun u hu => (h'.place_eq u hu).trans (h.place_eq u hu)⟩

/-- A branch that is not among the first is removed. -/
theorem remove (h : Kept good text m s s') {w : Nat} (hm : m ≤ w) (hw : ∀ j, w < j → s'.IsLive j) :
    Kept good text m s (s'.remove w) := by
  refine h.trans ⟨h.sound.remove w, Stack.keeps_remove hw, ?_, fun u hu => s'.place_remove (hu.trans_le hm)⟩
  have hle := h.le
  rw [Stack.size_remove]
  split <;> omega

/-- A branch that is not among the first is joined to another. -/
theorem join (h : Kept good text m s s') {v w : Nat} (hjoin : s'.canJoin v w = true) (hm : m ≤ w)
    (hw : ∀ j, w < j → s'.IsLive j) : Kept good text m s (s'.join v w) := by
  obtain ⟨hsound, hext, hsize, hbranch⟩ := h.sound.join hjoin
  refine h.trans ⟨hsound, Stack.keeps_join h.sound hjoin hw, ?_, fun u hu => ?_⟩
  · rw [hsize]
    exact (h.remove hm hw).le
  · have hvertex := (hbranch u).1
    rw [if_pos (hu.trans_le hm)] at hvertex
    exact h.sound.place_eq hext hvertex

/-- A branch stays on its vertex. -/
theorem setBranch (h : Kept good text m s s') {v : Nat} {b : Branch} (hb : s'.BranchSound good text b)
    (hvertex : b.vertex = (s'.branch v).vertex) (hlive : s'.IsLive v → b.status = .active) :
    Kept good text m s (s'.setBranch v b) :=
  h.trans ⟨h.sound.setBranch v hb, Stack.keeps_setBranch hlive, (Stack.size_setBranch ..).symm ▸ h.le,
    fun u _ => s'.place_setBranch hvertex u⟩

end Kept

theorem Reduced.kept (h : Reduced good text s v s') (hs : s.Sound good text) {m : Nat} (hm : m ≤ s.size) :
    Kept good text m s s' :=
  ⟨h.sound, h.keeps, hm.trans h.size_le, fun u hu => hs.place_eq h.ext (h.old u (hu.trans_le hm)).1⟩

/-- A branch is added. -/
theorem kept_add (h : s.Sound good text) {b : Branch} (hb : s.BranchSound good text b) (hlive : b.status = .active)
    {m : Nat} (hm : m ≤ s.size) : Kept good text m s (s.add b) := by
  refine ⟨h.add hb, Stack.keeps_add hlive, ?_, fun u hu => h.place_eq (Stack.extends_withBranches s _) ?_⟩
  · rw [Stack.size_add]
    omega
  · show ((s.add b).branch u).vertex = _
    rw [Stack.branch_add, if_neg (hu.trans_le hm).ne]

/-- A new branch takes the place of the branch that rules were applied on. -/
theorem Reduced.replace (h : Reduced good text s v s') (hs : s.Sound good text) {w m : Nat} (hw : s.size ≤ w)
    (hlt : w < s'.size) (hm : m ≤ s.size) : Kept good text m s (s'.replace v w) := by
  have hkeeps : s'.Keeps (s'.replace v w) := Stack.keeps_replace fun j hj => h.isLive_of_le (hw.trans hj)
  have hkept := h.kept hs hm
  have hsize := Stack.size_le_replace (s := s') v w
  refine ⟨h.sound.replace v w, h.keeps.trans hkeeps, by omega, fun u hu => ?_⟩
  rw [Stack.place_replace (by omega) hlt]
  split
  · rename_i heq
    exact (h.new w hw hlt).2.trans (congrArg s.place heq.symm)
  · exact hkept.place_eq u hu

/-- What the rules that are complete on a branch do, one after the other. -/
theorem reduced_foldl (h : s.Sound good text) (hlive : s.IsLive v) (hv : v < s.size) {rules : List Nat}
    (hrules : ∀ rule ∈ rules, rule ∈ Automaton.complete (s.state v)) :
    Reduced good text s v (rules.foldl (fun (p : Stack × Option Nat) rule => reduce p.1 v rule false) (s, none)).1 ∧
      ∀ w ∈ (rules.foldl (fun (p : Stack × Option Nat) rule => reduce p.1 v rule false) (s, none)).2, s.size ≤ w ∧
        w < (rules.foldl (fun (p : Stack × Option Nat) rule => reduce p.1 v rule false) (s, none)).1.size := by
  refine List.foldlRecOn (motive := fun p : Stack × Option Nat =>
    Reduced good text s v p.1 ∧ ∀ w ∈ p.2, s.size ≤ w ∧ w < p.1.size) _ _ ⟨.refl h, fun w hw => by cases hw⟩
    fun p ⟨hp, _⟩ rule hrule => ?_
  have hstate : p.1.state v = s.state v := congrArg Spot.state (hp.spot_old h hv)
  have hcan : CanReduce (p.1.state v) rule false := by
    rw [hstate]
    exact hrules rule hrule
  obtain ⟨hreduced, hmade⟩ := reduce_reduced hp.sound (hp.keeps v hlive) hcan
  refine ⟨hp.trans hreduced h hv, fun w hw => ?_⟩
  obtain ⟨rfl, hlt⟩ := hmade w hw
  exact ⟨hp.size_le, hlt⟩

/-- However a branch goes on once its rules have made `made`, the stack is kept. -/
theorem reduced_rest {s : Stack} {v next m : Nat} {made : Stack × Option Nat} {go : Nat → Bool → Stack → Stack × Bool}
    (t? : Option Terminal) (takes canTake : Bool) (step : Nat) (hkept : Kept good text m s made.1)
    (hremoved : t?.isSome = true → Kept good text m s (made.1.remove v))
    (hon : ∀ (canTake : Bool) {s' : Stack}, Kept good text m s s' → Kept good text m s (go next canTake s').1)
    (hstay : ∀ w, made.2 = some w → Kept good text m s (go v canTake (made.1.replace v w)).1) :
    Kept good text m s (if takes then go next true made.1
      else
        match made.2 with
        | some w =>
          if step < maxBranches then go v canTake (made.1.replace v w)
          else if t?.isSome then go next canTake (made.1.remove v)
          else go next canTake made.1
        | none =>
          if t?.isSome then go next canTake (made.1.remove v)
          else go next canTake made.1).1 := by
  split
  · exact hon true hkept
  · split
    · rename_i w hmade
      split
      · exact hstay w hmade
      · split
        · exact hon canTake (hremoved ‹_›)
        · exact hon canTake hkept
    · split
      · exact hon canTake (hremoved ‹_›)
      · exact hon canTake hkept

theorem reduceAll_kept (t? : Option Terminal) (first count : Nat) {m : Nat} (hm : m ≤ count)
    (hfirst : t?.isSome = true → count ≤ first + 1 ∧ m ≤ first) :
    ∀ (n step : Nat) {v : Nat} (canTake : Bool) {s : Stack}, s.Sound good text → s.IsLive v →
      (∀ j, count ≤ j → s.IsLive j) → m ≤ s.size → (v = first ∧ count ≤ s.size ∨ count ≤ v) →
      Kept good text m s (reduceAll t? first count n step v canTake s).1
  | 0, _, _, _, s, h, _, _, hsize, _ => by
    rw [reduceAll]
    exact .refl h hsize
  | n + 1, step, v, canTake, s, h, hlive, hnew, hms, hv => by
    -- every round leaves a stack on which the next can go on
    have hgo : ∀ {next : Nat} (canTake : Bool) {s' : Stack}, Kept good text m s s' → s'.IsLive next →
        (next = first ∧ count ≤ s'.size ∨ count ≤ next) →
        Kept good text m s (reduceAll t? first count n (step + 1) next canTake s').1 := by
      intro next canTake s' hs' hnext hle
      exact hs'.trans (reduceAll_kept t? first count hm hfirst n (step + 1) canTake hs'.sound hnext
        (fun j hj => hs'.keeps j (hnew j hj)) hs'.le hle)
    rw [reduceAll]
    split
    · exact .refl h hms
    · rename_i hsize
      have hlt : v < s.size := Nat.lt_of_not_le hsize
      split
      · rename_i u hu
        obtain ⟨hjoin, hmem⟩ := Stack.canJoin_of_partner? hu
        have hcount : count ≤ v := by
          by_contra hgt
          rw [List.drop_eq_nil_of_le (by rw [List.length_range]; omega)] at hmem
          cases hmem
        have hjoined := (Kept.refl h hms).join hjoin (hm.trans hcount) fun j hj => hnew j (hcount.trans hj.le)
        exact hgo canTake hjoined (hjoined.keeps v hlive) (Or.inr hcount)
      · dsimp only
        generalize hmade : List.foldl _ (s, none) _ = made
        obtain ⟨hreduced, hw⟩ : Reduced good text s v made.1 ∧ ∀ w ∈ made.2, s.size ≤ w ∧ w < made.1.size := by
          rw [← hmade]
          refine reduced_foldl h hlive hlt fun rule hrule => ?_
          have hmem := List.mem_of_mem_filter hrule
          cases t? with
          | none => exact Automaton.mem_complete_of_mem_reductions hmem
          | some t => exact Automaton.mem_complete_of_reduction? (Option.mem_toList.1 hmem)
        clear hmade
        have hnext : count ≤ (if v = first then s.size else v + 1) := by
          split <;> omega
        generalize (if v = first then s.size else v + 1) = next at hnext
        have hkept : Kept good text m s made.1 := hreduced.kept h hms
        have hon : ∀ (canTake : Bool) {s' : Stack}, Kept good text m s s' →
            Kept good text m s (reduceAll t? first count n (step + 1) next canTake s').1 := fun canTake s' hs' =>
          hgo canTake hs' (hs'.keeps next (hnew next hnext)) (Or.inr hnext)
        have hremoved : t?.isSome = true → Kept good text m s (made.1.remove v) := by
          intro ht
          obtain ⟨hcount, hmFirst⟩ := hfirst ht
          exact hkept.remove (by omega) fun j hj => hreduced.keeps j (hnew j (by omega))
        have hstay : ∀ w, made.2 = some w →
            Kept good text m s (reduceAll t? first count n (step + 1) v canTake (made.1.replace v w)).1 := by
          intro w hmade
          obtain ⟨hle, hlast⟩ := hw w hmade
          have hreplaced := hreduced.replace h hle hlast hms
          have hsize := Stack.size_le_replace (s := made.1) v w
          exact hgo canTake hreplaced (hreplaced.keeps v hlive) (hv.imp_left fun h => ⟨h.1, by omega⟩)
        cases t? <;> exact reduced_rest _ _ canTake _ hkept hremoved hon hstay

/-! ## Comparing branches -/

theorem kept_settle (h : s.Sound good text) {m : Nat} (hm : m ≤ s.size) (w : Nat) :
    Kept good text m s (s.settle w) :=
  (Kept.refl h hm).setBranch ⟨(h.branch w).lt, (h.branch w).isOpen, (h.branch w).waiting⟩ rfl fun h => h

theorem isBeatenBy_kept (own : Standing) (v : Nat) {m : Nat} : ∀ (ws : List Nat) {s : Stack}, s.Sound good text →
    m ≤ s.size → Kept good text m s (isBeatenBy own v ws s).2
  | [], s, h, hm => by
    rw [isBeatenBy]
    exact .refl h hm
  | w :: ws, s, h, hm => by
    have hsettled := kept_settle h hm w
    have hrest := hsettled.trans (isBeatenBy_kept own v ws hsettled.sound hsettled.le)
    rw [isBeatenBy]
    split
    · exact isBeatenBy_kept own v ws h hm
    · dsimp only
      split
      · exact hsettled
      · split
        · exact hsettled
        · exact hrest
      · exact hrest

theorem isBeaten_kept (finished? : Option Node) (v penalty : Nat) (h : s.Sound good text) {m : Nat} (hm : m ≤ s.size) :
    Kept good text m s (isBeaten finished? v penalty s).2 := by
  have hsettled := kept_settle h hm v
  unfold isBeaten
  split
  · exact .refl h hm
  · exact hsettled.trans (isBeatenBy_kept _ v _ hsettled.sound hsettled.le)

/-! ## The end of the text -/

/-- The root that the nodes of a whole reading make. -/
def rootOf (eof : Token) (nodes : List Node) : Node :=
  let (before, after) := splitExtras nodes
  match before.getLast? with
  | some (.tree h cs _ d) => build h (before.dropLast ++ cs ++ after) d.start
  | some (.leaf t _) => build .error (before ++ after) t.start
  | none => build .error after eof.before

theorem rootOf_stands {eof : Token} {nodes : List Node} (h : ∀ n ∈ nodes, n.Stands good text)
    (hfits : (rootOf eof nodes).penalty = 0 → (rootOf eof nodes).Fits text) : (rootOf eof nodes).Stands good text := by
  obtain ⟨before, after, hsplit⟩ : ∃ before after, splitExtras nodes = (before, after) := ⟨_, _, rfl⟩
  rw [← (splitExtras_spec hsplit).1] at h
  obtain ⟨hbefore, hafter⟩ := List.forall_mem_append.1 h
  unfold rootOf at hfits ⊢
  rw [hsplit] at hfits ⊢
  dsimp only at hfits ⊢
  cases hlast : before.getLast? with
  | none =>
    rw [hlast] at hfits
    exact stands_build hafter hfits
  | some n =>
    have hn := hbefore n (List.mem_of_getLast? hlast)
    rw [hlast] at hfits
    cases n with
    | leaf t e => exact stands_build h hfits
    | tree head cs e d =>
      refine stands_build (List.forall_mem_append.2 ⟨List.forall_mem_append.2 ⟨fun n hn => ?_, hn.children⟩, hafter⟩) hfits
      exact hbefore n ((List.dropLast_sublist _).subset hn)

/-- What is intact in the nodes of a whole reading keeps its order in the root. -/
theorem rootOf_laid {eof : Token} {nodes : List Node} {p q : Place} (h : ∀ n ∈ nodes, n.Stands good text)
    (hfollows : Follows text p nodes q) : Laid p.index (allIntact (rootOf eof nodes).children) q.index := by
  obtain ⟨before, after, hsplit⟩ : ∃ before after, splitExtras nodes = (before, after) := ⟨_, _, rfl⟩
  obtain ⟨rfl, -, -⟩ := splitExtras_spec hsplit
  have hlaid := hfollows.laid_allIntact
  unfold rootOf
  rw [hsplit]
  dsimp only
  cases hlast : before.getLast? with
  | none =>
    rwa [List.getLast?_eq_none_iff.1 hlast] at hlaid
  | some n =>
    obtain ⟨ns, rfl⟩ := List.getLast?_eq_some_iff.1 hlast
    cases n with
    | leaf t e => exact hlaid
    | tree head cs e d =>
      rw [List.dropLast_concat]
      show Laid p.index (allIntact (ns ++ cs ++ after)) q.index
      rw [List.append_assoc, List.singleton_append, allIntact_append, allIntact] at hlaid
      rw [List.append_assoc, allIntact_append, allIntact_append]
      by_cases hpenalty : d.penalty = 0
      · rw [intact_of_penalty (show (tree head cs e d).penalty = 0 from hpenalty), List.singleton_append] at hlaid
        have hn := h (.tree head cs e d) (by simp)
        cases hn with
        | tree hfits _ =>
          cases hfits hpenalty with
          | tree _ hcs hparts _ => exact Laid.splice (n := .tree _ cs e d) (laid_allIntact hcs hparts) hlaid
      · rwa [intact_of_fault (show (tree head cs e d).penalty ≠ 0 from hpenalty)] at hlaid

theorem isRoot_rootOf {eof : Token} {nodes : List Node} {p q : Place} (h : ∀ n ∈ nodes, n.Stands good text)
    (hfollows : Follows text p nodes q) (hfits : (rootOf eof nodes).penalty = 0 → (rootOf eof nodes).Fits text) :
    (rootOf eof nodes).IsRoot good text :=
  ⟨rootOf_stands h hfits, hfits, _, _, rootOf_laid h hfollows⟩

/-- The root is without faults only if the nodes are, and if a rule makes the last of them before the extra ones. -/
theorem rootOf_clean {eof : Token} {nodes before after : List Node} (hsplit : splitExtras nodes = (before, after))
    (hnodes : ∀ n ∈ nodes, n.Sound good text) (h : (rootOf eof nodes).penalty = 0) : ∃ ns k cs d,
      before = ns ++ [.tree (.rule k) cs false d] ∧ AreFree nodes ∧
      rootOf eof nodes = build (.rule k) (ns ++ cs ++ after) d.start := by
  obtain ⟨rfl, -, hextra⟩ := splitExtras_spec hsplit
  unfold rootOf at h ⊢
  rw [hsplit] at h ⊢
  dsimp only at h ⊢
  cases hlast : before.getLast? with
  | none =>
    rw [hlast] at h
    exact absurd h (penalty_build_fault (Or.inl rfl))
  | some n =>
    rw [hlast] at h
    cases n with
    | leaf t e => exact absurd h (penalty_build_fault (Or.inl rfl))
    | tree head cs e d =>
      obtain ⟨ns, rfl⟩ := List.getLast?_eq_some_iff.1 hlast
      rw [List.dropLast_concat] at h ⊢
      cases head with
      | error => exact absurd h (penalty_build_fault (Or.inl rfl))
      | skipped => exact absurd h (penalty_build_fault (Or.inr rfl))
      | rule k =>
        obtain rfl : e = false := hextra _ hlast
        obtain ⟨hfree, hafter⟩ := areFree_append.1 (penalty_build_rule.1 h)
        obtain ⟨hns, hcs⟩ := areFree_append.1 hfree
        have hcounted := (hnodes (.tree (.rule k) cs false d) (by simp)).counted
        refine ⟨ns, k, cs, d, rfl, areFree_append.2 ⟨areFree_append.2 ⟨hns, fun m hm => ?_⟩, hafter⟩, rfl⟩
        obtain rfl := List.mem_singleton.1 hm
        exact Or.inr (hcounted.2 hcs)

/-- The end of the text. -/
structure IsEnd (good : Token → Prop) (text : List Char) (eof : Token) : Prop where
  terminal : eof.terminal? = some .eof
  fits : eof.Fits text
  good : good eof

namespace IsEnd

variable {eof : Token}

theorem sound (h : IsEnd good text eof) : (leaf eof true).Sound good text :=
  sound_leaf h.good (by rw [h.terminal]; rfl) (Or.inr h.fits) fun _ => h.terminal

theorem isAside (h : IsEnd good text eof) : (leaf eof true).IsAside := by
  refine Or.inr ?_
  rw [symbol?, h.terminal]
  rfl

/-- Nothing comes behind the end of the text. -/
theorem le (h : IsEnd good text eof) {p : Place} (hp : p.IsIn text) : p.index ≤ eof.start.index := by
  have hstart := h.fits.start_isIn
  have hrest := (h.fits.spans _ h.terminal).last rfl
  rw [hstart.rest_eq, List.drop_eq_nil_iff] at hrest
  exact hp.1.trans hrest

end IsEnd

/-- A whole file is made of nodes that follow each other. -/
theorem fits_chunk {k i : Nat} {cs : List Node} {n : Node} {place : Place} (hmakes : (Rule.get k).makes = .chunk)
    (hcs : ∀ m ∈ cs ++ [n], m.Fits text) (haside : ∀ m ∈ cs ++ [n], m.isExtra = true → m.IsAside)
    (hlaid : Laid i (cs ++ [n]) n.stop.index) : (build (.rule k) (cs ++ [n]) place).Fits text := by
  have hstop : (build (.rule k) (cs ++ [n]) place).stop = n.stop := by
    show endOf place (cs ++ [n]) = n.stop
    rw [endOf_append]
    rfl
  obtain ⟨σ, -, hlast⟩ := (hcs n (by simp)).spans
  obtain ⟨m, ms, hms⟩ : ∃ m ms, cs ++ [n] = m :: ms := List.exists_cons_of_ne_nil (by simp)
  rw [hms] at hcs haside hlaid hstop ⊢
  obtain ⟨τ, -, hfirst⟩ := (hcs m (List.mem_cons_self ..)).spans
  have hlaid : Laid m.start.index (m :: ms) (build (.rule k) (m :: ms) place).stop.index := by
    rw [hstop]
    exact ⟨le_rfl, hlaid.2⟩
  refine .tree ⟨hfirst.start_isIn, ?_, hlaid.le hcs, fun hproper => ?_, ?_, fun heof => by cases heof⟩ hcs hlaid
    ⟨haside, fun check hcheck => ?_⟩
  · show (build (.rule k) (m :: ms) place).stop.IsIn text
    rw [hstop]
    exact hlast.stop_isIn
  · rw [hmakes] at hproper
    cases hproper
  · rw [hmakes]
    exact fun henclosed => by cases henclosed
  · rw [hmakes] at hcheck
    cases hcheck

/-- What a whole reading without faults makes stands in the text. -/
theorem rootOf_fits {eof : Token} (heof : IsEnd good text eof) {nodes : List Node} {d : Nat}
    (hway : Way good text a nodes d c) (hc : c.state = Automaton.accepting) (hplace : c.place.IsIn text)
    (h : (rootOf eof (nodes ++ [.leaf eof true])).penalty = 0) : (rootOf eof (nodes ++ [.leaf eof true])).Fits text := by
  obtain ⟨before, after, hsplit⟩ : ∃ before after, splitExtras nodes = (before, after) := ⟨_, _, rfl⟩
  obtain ⟨rfl, hafter, hbefore⟩ := splitExtras_spec hsplit
  have hsplit : splitExtras (before ++ after ++ [.leaf eof true]) = (before, after ++ [.leaf eof true]) := by
    rw [List.append_assoc]
    exact splitExtras_append hbefore (List.forall_mem_append.2 ⟨hafter, List.forall_mem_singleton.2 rfl⟩)
  have hsound : ∀ n ∈ before ++ after ++ [.leaf eof true], n.Sound good text :=
    List.forall_mem_append.2 ⟨fun n hn => (hway.sound n hn).1, List.forall_mem_singleton.2 heof.sound⟩
  obtain ⟨ns, k, cs, dg, rfl, hfree, hroot⟩ := rootOf_clean hsplit hsound h
  have hskipping : c.state ≠ Automaton.skipping := by
    rw [hc]
    decide
  obtain ⟨s, σ, hσ, hstep⟩ := hway.last_step rfl rfl hafter hskipping
  have hmakes : (Rule.get k).makes = .chunk := by
    have hchunk := (Automaton.isStep_of_mem hstep).accepts hc
    cases hσ
    exact Symbol.made.inj hchunk
  obtain ⟨-, hpenalty, -⟩ := hway.clean (areFree_append.1 hfree).1 hskipping
  have hfits : ∀ n ∈ ns ++ [.tree (.rule k) cs false dg] ++ after, n.Fits text := fun n hn =>
    (hway.sound n hn).1.fits (hpenalty n hn)
  have hleaf : (leaf eof true).Fits text := .leaf heof.terminal (heof.fits.spans _ heof.terminal)
  have hend : Laid c.place.index [.leaf eof true] eof.stop.index := ⟨heof.le hplace, le_rfl⟩
  have hlaid := (hway.follows.laid hpenalty).append hend
  cases hfits (.tree (.rule k) cs false dg) (by simp) with
  | tree _ hcs hcsLaid harranged =>
    have hall : ∀ n ∈ ns ++ cs ++ (after ++ [.leaf eof true]), n.Fits text ∧ (n.isExtra = true → n.IsAside) := by
      have hway : ∀ n ∈ ns ++ [.tree (.rule k) cs false dg] ++ after, n.Fits text ∧ (n.isExtra = true → n.IsAside) :=
        fun n hn => ⟨hfits n hn, fun hextra => (hway.sound n hn).1.aside hextra (hpenalty n hn)⟩
      intro n hn
      simp only [List.mem_append, List.mem_singleton] at hn
      rcases hn with (hn | hn) | hn | rfl
      · exact hway n (by simp [hn])
      · exact ⟨hcs n hn, harranged.aside n hn⟩
      · exact hway n (by simp [hn])
      · exact ⟨hleaf, fun _ => heof.isAside⟩
    rw [List.append_assoc, List.append_assoc, List.singleton_append] at hlaid
    have hspliced := Laid.splice (n := .tree (.rule k) cs false dg) hcsLaid hlaid
    rw [← List.append_assoc, ← List.append_assoc] at hspliced
    rw [← List.append_assoc] at hall
    rw [hroot, ← List.append_assoc]
    exact fits_chunk hmakes (fun n hn => (hall n hn).1) (fun n hn => (hall n hn).2) hspliced

/-- How a branch can come to its end: everything has been put together, or what is left makes an error node. -/
inductive Ends (s : Stack) (v : Nat) : Prop
  | whole : s.state v = Automaton.accepting → s.IsOpen (s.branch v).vertex → Ends s v
  | fault (i : Nat) (n : Node) : (s.top v).links = [⟨i, some n⟩] → n.isError = true → n.isExtra = false → Ends s v

/-- No step leads back to the beginning of a file. -/
theorem isRoot_of_beginning {eof : Token} {nodes : List Node} {d : Nat} (hway : Way good text a nodes d c)
    (hc : c.state = Automaton.beginning) : (rootOf eof nodes).IsRoot good text := by
  refine isRoot_rootOf hway.stands hway.follows fun h => ?_
  obtain ⟨before, after, hsplit⟩ : ∃ before after, splitExtras nodes = (before, after) := ⟨_, _, rfl⟩
  obtain ⟨rfl, hafter, -⟩ := splitExtras_spec hsplit
  obtain ⟨ns, k, cs, dg, rfl, -, -⟩ := rootOf_clean hsplit (fun n hn => (hway.sound n hn).1) h
  obtain ⟨s, σ, -, hstep⟩ := hway.last_step rfl rfl hafter (by rw [hc]; decide)
  exact absurd hc (Automaton.isStep_of_mem hstep).ne_beginning

/-- An error node that is not extra stays one at the end of the text. -/
theorem isRoot_of_isError {eof : Token} {nodes : List Node} {n : Node} {p q : Place}
    (hnodes : ∀ m ∈ nodes ++ [n] ++ [.leaf eof true], m.Sound good text)
    (hfollows : Follows text p (nodes ++ [n] ++ [.leaf eof true]) q) (herror : n.isError = true)
    (hextra : n.isExtra = false) : (rootOf eof (nodes ++ [n] ++ [.leaf eof true])).IsRoot good text := by
  refine isRoot_rootOf (fun m hm => (hnodes m hm).stands) hfollows fun h => ?_
  have hsplit : splitExtras (nodes ++ [n] ++ [.leaf eof true]) = (nodes ++ [n], [.leaf eof true]) :=
    splitExtras_append (fun m hm => by simp at hm; exact hm ▸ hextra) (List.forall_mem_singleton.2 rfl)
  obtain ⟨ns, k, cs, dg, hbefore, -, -⟩ := rootOf_clean hsplit hnodes h
  obtain ⟨-, hn⟩ := List.append_inj' hbefore rfl
  cases hn
  cases herror

/-- What a branch makes that has come to its end. -/
theorem isRoot_of_readings {eof : Token} (heof : IsEnd good text eof)
    (hs : ((s.push v (some (.leaf eof true)) Automaton.beginning).halt v).Sound good text)
    (htop : (s.branch v).vertex < s.vertices.size) (hplace : (s.place v).IsIn text) (hend : v < s.size → Ends s v) :
    ∀ nodes ∈ (s.push v (some (.leaf eof true)) Automaton.beginning).readings v, (rootOf eof nodes).IsRoot good text := by
  intro nodes hnodes
  obtain ⟨i, d, hpath, hbottom⟩ := Stack.path_of_readings v nodes hnodes
  have hpath := hpath.halt v
  have hext := (s.extends_push v (some (.leaf eof true)) Automaton.beginning).trans (Stack.extends_halt _ v)
  have hsize : s.vertices.size < ((s.push v (some (.leaf eof true)) Automaton.beginning).halt v).vertices.size :=
    (Nat.lt_succ_self _).trans_eq (s.size_vertices_push v (some (.leaf eof true)) Automaton.beginning).symm
  rcases Nat.lt_or_ge v s.size with hv | hv
  · rw [Stack.vertex_branch_push hv] at hpath
    have hsound := (hpath.sound hs hsize).2
    have hfollows := hpath.follows hs hsize
    rcases hpath.of_single (congrArg Vertex.links Stack.vertex_push) with ⟨rfl, -⟩ | ⟨ms, d', rfl, hrest⟩
    · rw [Stack.vertex_push] at hbottom
      cases hbottom
    · cases hend hv with
      | whole hstate hopen =>
        obtain ⟨-, -, hway⟩ := hrest.way hs (htop.trans_le hext.size_le) (hext.isOpen _ htop hopen)
        rw [hext.spot_eq _ htop] at hway
        exact isRoot_rootOf (fun n hn => (hsound n hn).stands) hfollows (rootOf_fits heof hway hstate hplace)
      | fault k n hlinks herror hextra =>
        rcases hrest.of_single ((congrArg Vertex.links (Stack.vertex_push_of_lt htop)).trans hlinks) with
          ⟨rfl, -⟩ | ⟨ms, d', rfl, -⟩
        · rw [Stack.vertex_push_of_lt htop] at hbottom
          rw [show (s.vertex (s.branch v).vertex).links = _ from hlinks] at hbottom
          cases hbottom
        · exact isRoot_of_isError hsound hfollows herror hextra
  · rw [Stack.vertex_of_size_le (by rw [Stack.size_push]; exact hv)] at hpath
    obtain ⟨-, -, hway⟩ := hpath.way hs hs.nonempty hs.bottom
    exact isRoot_of_beginning hway hs.beginning

theorem accept_sound {r : Reader} {eof : Token} (heof : IsEnd good text eof) (hstack : (r.stack.halt v).Sound good text)
    (hfinished : ∀ n ∈ r.finished?, n.IsRoot good text) (hend : v < r.stack.size → Ends r.stack v) :
    (accept r v eof).Sound good text := by
  obtain ⟨s, level, finished?, finishes⟩ := r
  have htop := (hstack.branch v).lt
  have hplace := hstack.place_isIn v
  unfold Stack.place Stack.top at hplace
  rw [Stack.vertex_branch_halt] at htop hplace
  have hisEof : (leaf eof true).isEof = true := decide_eq_true heof.terminal
  have hhalted : ((s.push v (some (.leaf eof true)) Automaton.beginning).halt v).Sound good text := by
    rw [Stack.halt_push]
    have hv : v < (s.halt v).size → v < s.size := fun hv => Stack.size_halt s v ▸ hv
    refine hstack.push v (.node ⟨heof.sound, .closing ?_, rfl, heof.fits.stop_isIn,
      laid_intact_leaf (heof.le (hstack.place_isIn v)) heof.fits.le true⟩) (Or.inl ⟨_, rfl, hisEof⟩)
      (fun hlt => Stack.isPaused_halt (hv hlt)) fun hlt hlive => ?_
    · rw [closes, hisEof, Bool.true_or]
    · exact absurd hlive (Stack.not_isLive_halt (hv hlt))
  have hroots := isRoot_of_readings heof hhalted htop hplace hend
  refine ⟨hhalted, ?_⟩
  refine List.foldlRecOn (motive := fun best? : Option Node => ∀ n ∈ best?, n.IsRoot good text) _ _ hfinished
    fun best? hbest root hroot => ?_
  obtain ⟨nodes, hnodes, heq⟩ := List.mem_map.1 hroot
  have hroot : root.IsRoot good text := by
    rw [← heq]
    exact hroots nodes hnodes
  split
  · split
    · intro n hn
      cases hn
      exact hroot
    · exact hbest
  · intro n hn
    cases hn
    exact hroot

theorem size_accept (r : Reader) (v : Nat) (eof : Token) : (accept r v eof).stack.size = r.stack.size :=
  (Stack.size_halt ..).trans (Stack.size_push ..)

/-! ## Going back -/

/-- What is left of the branch `v` without the error node on top of it, and the parts of that node. -/
structure Popped (good : Token → Prop) (text : List Char) (s : Stack) (v : Nat) (p : Stack × List Node) : Prop where
  sound : p.1.Sound good text
  ext : s.Extends p.1
  size : p.1.size = s.size
  isLive : p.1.IsLive v
  state : p.1.state v = s.state v
  branch : ∀ j, j ≠ v → p.1.branch j = s.branch j
  stands : ∀ n ∈ p.2, n.Stands good text
  last : ∀ n ∈ p.2.getLast?, n.isExtra = false
  stop : endOf (p.1.place v) p.2 = s.place v
  laid : Laid (p.1.place v).index (allIntact p.2) (s.place v).index

theorem Popped.refl (h : s.Sound good text) (hlive : s.IsLive v) : Popped good text s v (s, []) :=
  ⟨h, .refl s, rfl, hlive, rfl, fun _ _ => rfl, List.forall_mem_nil _, (fun n hn => by cases hn), rfl,
    le_refl (s.place v).index⟩

/-- An error node on top of a branch. -/
structure IsOnTop (s : Stack) (v : Nat) (p : Nat × Node) : Prop where
  isError : p.2.isError = true
  path : ∃ d, s.Path (s.branch v).vertex p.1 [p.2] d

/-- An error node that holds something has a fault. -/
theorem penalty_of_isError {n : Node} (h : n.Sound good text) (herror : n.isError = true) (hcloses : n.closes = false) :
    n.penalty ≠ 0 := by
  have hcounted := h.counted
  cases n with
  | leaf t e => simp [closes, herror, children] at hcloses
  | tree head cs e d =>
    obtain rfl : head = .error := of_decide_eq_true herror
    exact hcounted

theorem popped_of_isOnTop (h : s.Sound good text) (hlive : s.IsLive v) (hv : v < s.size)
    (hstate : s.state v ≠ Automaton.skipping) {i : Nat} {n : Node} (hn : IsOnTop s v (i, n)) :
    Popped good text s v (s.setBranch v { s.branch v with vertex := i, status := .active }, n.children) := by
  have hbranch := h.branch v
  obtain ⟨d, hpath⟩ := hn.path
  obtain ⟨hi, hopen, hway⟩ := hpath.way h hbranch.lt (h.isOpen hlive)
  obtain ⟨hsound, hcloses⟩ := hway.sound n (List.mem_singleton.2 rfl)
  have hextra : n.isExtra = true := by
    by_contra hne
    obtain ⟨_, σ, hσ, -⟩ := hway.single rfl (Bool.eq_false_iff.2 hne) hstate
    rw [symbol?_of_isError hn.isError] at hσ
    cases hσ
  have hsame : (s.spot i).state = s.state v := (hway.extras (List.forall_mem_singleton.2 hextra) hstate).1
  have hstop : n.stop = s.place v := hway.follows.2.2
  have hset : (s.setBranch v { s.branch v with vertex := i, status := .active }).branch v =
      { s.branch v with vertex := i, status := .active } := (Stack.branch_setBranch ..).trans (if_pos ⟨rfl, hv⟩)
  have hlast := hsound.last hn.isError
  refine ⟨h.setBranch v ⟨hi, fun _ => hopen, fun t ht => by cases ht⟩, Stack.extends_withBranches s _,
    List.length_set, ?_, ?_, fun j hj => ?_, hsound.stands.children, fun m hm => (hlast m hm).1, ?_, ?_⟩
  · unfold Stack.IsLive
    rw [hset]
  · unfold Stack.state Stack.top
    rw [hset]
    exact hsame
  · rw [Stack.branch_setBranch, if_neg fun heq => hj heq.1]
  · cases hchildren : n.children.getLast? with
    | none =>
      have hempty : n.closes = true := by
        rw [closes, hn.isError, List.getLast?_eq_none_iff.1 hchildren]
        simp
      rw [hcloses] at hempty
      cases hempty
    | some m =>
      unfold endOf
      dsimp only
      rw [hchildren]
      exact (hlast m hchildren).2.trans hstop
  · have hlaid := hway.follows.1
    rw [hstop, intact_of_fault (penalty_of_isError hsound hn.isError hcloses)] at hlaid
    unfold Stack.place Stack.top
    rw [hset]
    exact hlaid

theorem popError_popped (h : s.Sound good text) (hlive : s.IsLive v) (hv : v < s.size)
    (hstate : s.state v ≠ Automaton.skipping) : Popped good text s v (popError s v) := by
  unfold popError
  split
  · dsimp only
    generalize hfound : Stack.explore s v _ none = found
    have hontop : ∀ p ∈ found, IsOnTop s v p := by
      rw [← hfound]
      refine Stack.explore_induction v (P := fun acc : Option (Nat × Node) => ∀ p ∈ acc, IsOnTop s v p)
        (Q := fun t => s.Path (s.branch v).vertex t.vertex t.nodes t.depth ∧ ∀ n ns, t.nodes = n :: ns → ns = [])
        ⟨.stay, fun n ns hns => by cases hns⟩ (fun acc t e ⟨hpath, _⟩ hover he => ⟨hpath.follow he, ?_⟩)
        (fun p hp => by cases hp) fun acc t hacc ⟨hpath, hsingle⟩ => ?_
      · cases hnodes : t.nodes with
        | nil =>
          intro n ns hns
          unfold Stack.Trail.follow at hns
          rw [hnodes] at hns
          split at hns
          · exact (List.cons_eq_cons.1 hns).2.symm
          · cases hns
        | cons n ns =>
          rw [hnodes] at hover
          cases hover
      · cases hnodes : t.nodes with
        | nil => exact hacc
        | cons n ns =>
          obtain rfl := hsingle n ns hnodes
          rw [hnodes] at hpath
          dsimp only
          split
          · rename_i hn
            intro p hp
            cases hp
            exact ⟨(Bool.and_eq_true_iff.1 hn).2, _, hpath⟩
          · exact hacc
    split
    · rename_i i n
      exact popped_of_isOnTop h hlive hv hstate (hontop _ rfl)
    · exact .refl h hlive
  · exact .refl h hlive

theorem Popped.kept {p : Stack × List Node} (hp : Popped good text s v p) (h : s.Sound good text) (hv : v < s.size)
    {m : Nat} (hm : m ≤ v) : Kept good text m s p.1 := by
  refine ⟨hp.sound, fun j hj => ?_, hp.size ▸ hm.trans hv.le, fun u hu =>
    h.place_eq hp.ext (congrArg Branch.vertex (hp.branch u (hu.trans_le hm).ne))⟩
  rcases eq_or_ne j v with rfl | hne
  · exact hp.isLive
  · unfold Stack.IsLive
    rw [hp.branch j hne]
    exact hj

/-- Puts an error node on a branch, of what was popped and the given nodes behind it. -/
def putBack (v state : Nat) (nodes : List Node) (p : Stack × List Node) : Stack :=
  let (parts, extras) := splitExtras (p.2 ++ nodes)
  let s := if parts.isEmpty then p.1 else p.1.push v (some ((build .error parts (p.1.place v)).setExtra true)) state
  s.pushAll v extras state

theorem Popped.putBack {p : Stack × List Node} (hp : Popped good text s v p) (hv : v < s.size) {nodes : List Node}
    {d : Nat} (hway : Way good text (s.spot (s.branch v).vertex) nodes d c) (hplace : (s.place v).IsIn text) {m : Nat}
    (hm : m ≤ v) :
    Kept good text m p.1 (putBack v (s.state v) nodes p) ∧ p.1.Extends (putBack v (s.state v) nodes p) := by
  obtain ⟨parts, extras, hnodes⟩ : ∃ parts extras, splitExtras nodes = (parts, extras) := ⟨_, _, rfl⟩
  have hsplit := splitExtras_append_left hp.last hnodes
  obtain ⟨rfl, hextras, -⟩ := splitExtras_spec hnodes
  have hfollows := hway.follows
  rw [show (s.spot (s.branch v).vertex).place = s.place v from rfl, Follows.append_iff] at hfollows
  obtain ⟨hparts, hfollows⟩ := hfollows
  have hextras : ∀ n ∈ extras, n.isExtra = true ∧ n.Sound good text ∧ n.closes = false := fun n hn =>
    ⟨hextras n hn, hway.sound n (List.mem_append_right _ hn)⟩
  have hsize : v < p.1.size := hp.size ▸ hv
  have hend : endOf (p.1.place v) (p.2 ++ parts) = endOf (s.place v) parts := by
    rw [endOf_append, hp.stop]
  unfold Reader.putBack
  rw [hsplit]
  dsimp only
  split
  · rename_i hempty
    rw [List.isEmpty_iff.1 hempty] at hend
    obtain ⟨hsound, hext, -, hkeeps, hsizeAll, hbranch⟩ := hp.sound.pushAll hp.isLive hsize hp.state hextras
      (show Follows text (endOf (p.1.place v) []) extras c.place from hend ▸ hfollows)
    exact ⟨⟨hsound, hkeeps, by omega, fun u hu =>
      hp.sound.place_eq hext (congrArg Branch.vertex (hbranch u (hu.trans_le hm).ne))⟩, hext⟩
  · rename_i hempty
    have hjoins : Joins good text (p.1.spot (p.1.branch v).vertex)
        ((build .error (p.2 ++ parts) (p.1.place v)).setExtra true) ⟨s.state v, endOf (p.1.place v) (p.2 ++ parts)⟩ := by
      rw [← hp.state]
      have hstands : ∀ n ∈ p.2 ++ parts, n.Stands good text :=
        List.forall_mem_append.2 ⟨hp.stands, fun n hn => hway.stands n (List.mem_append_left _ hn)⟩
      refine joins_error hstands (splitExtras_spec hsplit).2.2 ?_ ?_
      · exact hend.symm ▸ hparts.isIn hplace
      · rw [allIntact_append, show endOf (p.1.spot (p.1.branch v).vertex).place _ = _ from hend]
        exact hp.laid.append hparts.laid_allIntact
    have hpushed := hp.sound.pushNode hp.isLive hjoins (Bool.eq_false_iff.2 hempty)
    generalize (build .error (p.2 ++ parts) (p.1.place v)).setExtra true = n at hjoins hpushed ⊢
    have hspot := Stack.spot_push hsize (some n) (s.state v)
    have hplace : (p.1.push v (some n) (s.state v)).place v = endOf (s.place v) parts :=
      (congrArg Spot.place hspot).trans (hjoins.stop.trans hend)
    obtain ⟨hsound, hext, -, hkeeps, hsizeAll, hbranch⟩ := hpushed.pushAll (p.1.keeps_push v _ _ v hp.isLive)
      (hsize.trans_eq (Stack.size_push ..).symm) (congrArg Spot.state hspot) hextras (hplace.symm ▸ hfollows)
    have hextAll := (p.1.extends_push v (some n) (s.state v)).trans hext
    refine ⟨⟨hsound, (p.1.keeps_push v _ _).trans hkeeps, ?_, fun u hu => hp.sound.place_eq hextAll ?_⟩, hextAll⟩
    · rw [hsizeAll, Stack.size_push]
      omega
    · have hne := (hu.trans_le hm).ne
      rw [hbranch u hne, Stack.branch_push_of_ne hne]

/-- The nodes on a way are read again from where it begins, on a new branch. -/
theorem putBack_kept (h : s.Sound good text) {b : Branch} (hb : s.BranchSound good text b) (hlive : b.status = .active)
    (hstate : (s.spot b.vertex).state ≠ Automaton.skipping) {nodes : List Node} {d : Nat}
    (hway : Way good text (s.spot b.vertex) nodes d c) {m : Nat} (hm : m ≤ s.size) :
    Kept good text m s (putBack s.size (s.spot b.vertex).state nodes (popError (s.add b) s.size)) ∧
      s.Extends (putBack s.size (s.spot b.vertex).state nodes (popError (s.add b) s.size)) := by
  have hadded := h.add hb
  have hbranch : (s.add b).branch s.size = b := (Stack.branch_add s b s.size).trans (if_pos rfl)
  have hsize : s.size < (s.add b).size := (Nat.lt_succ_self _).trans_eq (s.size_add b).symm
  have hspot : (s.add b).spot ((s.add b).branch s.size).vertex = s.spot b.vertex := by
    rw [hbranch]
    rfl
  have hliveAdded : (s.add b).IsLive s.size := by
    unfold Stack.IsLive
    rw [hbranch]
    exact hlive
  have hpopped := popError_popped hadded hliveAdded hsize (ne_of_eq_of_ne (congrArg Spot.state hspot) hstate)
  obtain ⟨hkept, hext⟩ := hpopped.putBack hsize (hspot ▸ hway) (hadded.place_isIn _) hm
  rw [show (s.add b).state s.size = (s.spot b.vertex).state from congrArg Spot.state hspot] at hkept hext
  exact ⟨(kept_add h hb hlive hm).trans ((hpopped.kept hadded hsize hm).trans hkept),
    (Stack.extends_withBranches s _).trans (hpopped.ext.trans hext)⟩

theorem goBack_kept (v : Nat) {state depth : Nat} (hstate : state ≠ Automaton.skipping)
    {targets : List (Nat × List (List Node))} (h : s.Sound good text) {m : Nat} (hm : m ≤ s.size)
    (htargets : ∀ g ∈ targets, s.IsGroup good text depth c g ∧ (s.spot g.1).state = state) :
    Kept good text m s (goBack v state targets s) := by
  unfold goBack
  refine (List.foldlRecOn (motive := fun s' : Stack => Kept good text m s s' ∧ s.Extends s') _ _
    ⟨.refl h hm, .refl s⟩ fun s' ⟨hkept, hext⟩ g hg => ?_).1
  obtain ⟨i, readings⟩ := g
  obtain ⟨hgroup, rfl⟩ := htargets _ hg
  have hspot := hext.spot_eq i hgroup.lt
  have hway : Way good text (s'.spot i) (readings.headD []) depth c := by
    rw [hspot]
    cases readings with
    | nil => exact absurd rfl hgroup.nonempty
    | cons nodes rest => exact hgroup.way nodes (List.mem_cons_self ..)
  obtain ⟨hback, hextBack⟩ := putBack_kept hkept.sound (b := ⟨i, .active, (s'.branch v).base, (s'.branch v).level?, none⟩)
    ⟨hgroup.lt.trans_le hext.size_le, fun _ => hext.isOpen i hgroup.lt hgroup.isOpen, fun t ht => by cases ht⟩ rfl
    (hspot ▸ hstate) hway hkept.le
  rw [hspot] at hback hextBack
  exact ⟨hkept.trans hback, hext.trans hextBack⟩

theorem fallBack_kept (finished? : Option Node) (v : Nat) (t : Terminal) (penalty progress : Nat) {m : Nat} :
    ∀ (fs : List Fallback) {s : Stack}, s.Sound good text → s.IsLive v → m ≤ s.size →
      Kept good text m s (fallBack finished? v t penalty progress fs s).2
  | [], s, h, _, hm => by
    rw [fallBack]
    exact .refl h hm
  | f :: fs, s, h, hlive, hm => by
    rw [fallBack]
    dsimp only
    split
    · exact fallBack_kept finished? v t penalty progress fs h hlive hm
    · rename_i hpointless
      have hbeaten := isBeaten_kept finished? v (penalty + f.depth * Penalty.node
        + ((s.place v).byte - f.place.byte) * Penalty.byte
        + ((s.place v).position.line - f.place.position.line) * Penalty.line) h hm
      split
      · rename_i s' heq
        rw [heq] at hbeaten
        exact hbeaten
      · rename_i s' heq
        rw [heq] at hbeaten
        have hlive' := hbeaten.keeps v hlive
        have hrest := hbeaten.trans
          (fallBack_kept finished? v t penalty progress fs hbeaten.sound hlive' hbeaten.le)
        generalize (if progress = 0 then f.depth else f.depth + 1) = depth
        by_cases htakes : Automaton.takes f.state t = true
        · rw [if_pos htakes]
          split
          · exact hrest
          · have hstate : f.state ≠ Automaton.skipping := by
              rintro hskipping
              simp [hskipping] at hpointless
            have hgroups := Stack.isGroup_under hbeaten.sound hlive' depth
            refine hbeaten.trans (goBack_kept v hstate hbeaten.sound hbeaten.le fun g hg =>
              ⟨hgroups g (List.mem_filter.1 hg).1, ?_⟩)
            exact of_decide_eq_true (List.mem_filter.1 hg).2
        · rw [if_neg htakes]
          exact hrest

/-! ## Skipping -/

theorem skip_sound (h : s.Sound good text) (hlive : s.IsLive v) (hv : v < s.size) (progress : Nat) {t : Token}
    (ht : t.Fits text) (hgood : good t) (hafter : (s.place v).index ≤ t.start.index) :
    (skip s v progress t).Sound good text ∧ (skip s v progress t).size = s.size := by
  have hleaf : ∀ n ∈ [Node.leaf t false], n.Stands good text := List.forall_mem_singleton.2 (.leaf hgood (Or.inr ht))
  have hleafLaid : Laid (s.place v).index (allIntact [.leaf t false]) t.stop.index := by
    rw [allIntact, allIntact, List.append_nil]
    exact laid_intact_leaf hafter ht.le false
  unfold skip
  dsimp only
  generalize hpair : (if progress = 0 then (s, Node.build .skipped [.leaf t false] t.before) else _) = pair
  -- what has been skipped before is taken off the branch and becomes a part of the new node
  obtain ⟨hsound, hopen, hsize, parts, hnode, hparts, hstop, hlaid⟩ : pair.1.Sound good text ∧ pair.1.IsLive v ∧
      pair.1.size = s.size ∧ ∃ parts, pair.2 = build .skipped parts t.before ∧ (∀ n ∈ parts, n.Stands good text) ∧
      pair.2.stop = t.stop ∧ Laid (pair.1.place v).index (allIntact parts) t.stop.index := by
    rw [← hpair]
    split
    · exact ⟨h, hlive, rfl, _, rfl, hleaf, rfl, hleafLaid⟩
    · split
      · rename_i i earlier alternatives groups heq
        have hgroup := Stack.isGroup_under h hlive 1 (i, earlier :: alternatives) (heq ▸ List.mem_cons_self ..)
        have hway := hgroup.way earlier (List.mem_cons_self ..)
        refine ⟨h.setBranch v ⟨hgroup.lt, fun _ => hgroup.isOpen, fun t ht => by cases ht⟩,
          Stack.keeps_setBranch (fun _ => rfl) v hlive, Stack.size_setBranch .., _, rfl,
          List.forall_mem_append.2 ⟨hway.stands, ?_⟩, ?_, ?_⟩
        · exact List.forall_mem_singleton.2 (sound_skipped hleaf).stands
        · show endOf t.before (earlier ++ [_]) = t.stop
          rw [endOf_append]
          rfl
        · unfold Stack.place Stack.top
          rw [Stack.branch_setBranch, if_pos ⟨rfl, hv⟩, allIntact_append, allIntact, allIntact, List.append_nil]
          exact hway.follows.laid_allIntact.append (laid_intact_build (Or.inr rfl) hleafLaid)
      · exact ⟨h, hlive, rfl, _, rfl, hleaf, rfl, hleafLaid⟩
  have hpushed : (pair.1.push v (some pair.2) Automaton.skipping).Sound good text := by
    refine hsound.pushNode hopen ⟨?_, .lost, rfl, ?_, ?_⟩ ?_
    · rw [hnode]
      exact sound_skipped hparts
    · show pair.2.stop.IsIn text
      rw [hstop]
      exact ht.stop_isIn
    · show Laid _ pair.2.intact pair.2.stop.index
      rw [hstop, hnode]
      exact laid_intact_build (Or.inr rfl) hlaid
    · rw [hnode]
      rfl
  have hbranch := hpushed.branch v
  have hsize : (pair.1.push v (some pair.2) Automaton.skipping).size = s.size := (Stack.size_push ..).trans hsize
  split
  · exact ⟨hpushed.setBranch v ⟨hbranch.lt, hbranch.isOpen, hbranch.waiting⟩, (Stack.size_setBranch ..).trans hsize⟩
  · exact ⟨hpushed, hsize⟩

theorem skip_unless_beaten_grown {r : Reader} (hfinished : ∀ n ∈ r.finished?, n.IsRoot good text)
    (v penalty progress : Nat) {t : Token} (ht : t.Fits text) (hgood : good t) (h : s.Sound good text)
    (hlive : s.IsLive v) {m : Nat} (hm : m ≤ s.size) (hv : v < m) (hafter : (s.place v).index ≤ t.start.index) :
    Grown good text m
      (match isBeaten r.finished? v penalty s with
      | (true, s) => ⟨s.halt v, r.level, r.finished?, r.finishes⟩
      | (false, s) => ⟨skip s v progress t, r.level, r.finished?, r.finishes⟩) := by
  have hbeaten := isBeaten_kept r.finished? v penalty h hm
  split
  · rename_i s' heq
    rw [heq] at hbeaten
    exact ⟨⟨hbeaten.sound.halt v, hfinished⟩, (Stack.size_halt ..).symm ▸ hbeaten.le⟩
  · rename_i s' heq
    rw [heq] at hbeaten
    obtain ⟨hsound, hsize⟩ := skip_sound hbeaten.sound (hbeaten.keeps v hlive) (hv.trans_le hbeaten.le) progress ht hgood
      (hbeaten.place_eq v hv ▸ hafter)
    exact ⟨⟨hsound, hfinished⟩, hsize.symm ▸ hbeaten.le⟩

/-- At the end of the text everything that is left becomes an error node. -/
theorem accept_rest_sound {r : Reader} (h : r.Sound good text) (hlive : r.stack.IsLive v) {eof : Token}
    (heof : IsEnd good text eof) : (accept ⟨r.stack.push v (some (.build .error [] (r.stack.place v)))
      Automaton.beginning, r.level, r.finished?, r.finishes⟩ v eof).Sound good text := by
  have hhalted := h.stack.halt v
  have herror : (build .error [] (r.stack.place v)).Sound good text :=
    sound_error (List.forall_mem_nil _) fun n hn => by cases hn
  refine accept_sound heof ?_ h.finished fun hv => ?_
  · rw [Stack.halt_push]
    have hv : v < (r.stack.halt v).size → v < r.stack.size := fun hv => Stack.size_halt r.stack v ▸ hv
    have hplace : (r.stack.halt v).place v = r.stack.place v :=
      h.stack.place_eq (r.stack.extends_halt v) (Stack.vertex_branch_halt r.stack v)
    refine hhalted.push v (.node ⟨herror, .closing rfl, rfl, h.stack.place_isIn v,
      laid_intact_build (Or.inl rfl) (le_of_eq (congrArg Place.index hplace))⟩) (Or.inr ?_)
      (fun hlt => Stack.isPaused_halt (hv hlt)) fun hlt hlive => ?_
    · rw [Stack.vertex_branch_halt]
      exact (r.stack.extends_halt v).isOpen _ (h.stack.branch v).lt (h.stack.isOpen hlive)
    · exact absurd hlive (Stack.not_isLive_halt (hv hlt))
  · rw [Stack.size_push] at hv
    refine .fault (r.stack.branch v).vertex (build .error [] (r.stack.place v)) ?_ rfl rfl
    unfold Stack.top
    rw [Stack.vertex_branch_push hv, Stack.vertex_push]

theorem recover_grown {r : Reader} {m : Nat} (h : Grown good text m r) (hlive : r.stack.IsLive v) (hv : v < m)
    {t : Token} (ht : t.Fits text) (hgood : good t) (hafter : (r.stack.place v).index ≤ t.start.index) :
    Grown good text m (recover r v t) := by
  obtain ⟨s, level, finished?, finishes⟩ := r
  obtain ⟨h, hm⟩ := h
  have hfinished : ∀ n ∈ finished?, n.IsRoot good text := h.finished
  -- whether reading could go back or not, the token is skipped or the reading ends
  have hrest : ∀ (isBack : Bool) {s' : Stack} {skipped : Reader}, Kept good text m s s' → Grown good text m skipped →
      Grown good text m
        (if t.terminal? = some .eof then
          accept ⟨s'.push v (some (.build .error [] (s'.place v))) Automaton.beginning, level, finished?, finishes⟩ v t
        else if isBack && (maxBranches < s'.size || t.changesLevel) then ⟨s'.halt v, level, finished?, finishes⟩
        else skipped) := by
    intro isBack s' skipped hs' hskipped
    split
    · rename_i hterminal
      refine ⟨accept_rest_sound (r := ⟨s', level, finished?, finishes⟩) ⟨hs'.sound, hfinished⟩ (hs'.keeps v hlive)
        ⟨hterminal, ht, hgood⟩, ?_⟩
      rw [size_accept, Stack.size_push]
      exact hs'.le
    · split
      · exact ⟨⟨hs'.sound.halt v, hfinished⟩, (Stack.size_halt ..).symm ▸ hs'.le⟩
      · exact hskipped
  have hsettled := kept_settle h.stack hm v
  have hskip : ∀ {s' : Stack} (penalty progress : Nat), Kept good text m s s' → Grown good text m
      (match isBeaten finished? v penalty s' with
      | (true, s) => ⟨s.halt v, level, finished?, finishes⟩
      | (false, s) => ⟨skip s v progress t, level, finished?, finishes⟩) := fun penalty progress hs' =>
    skip_unless_beaten_grown (r := ⟨s, level, finished?, finishes⟩) hfinished v penalty progress ht hgood hs'.sound
      (hs'.keeps v hlive) hs'.le hv (hs'.place_eq v hv ▸ hafter)
  unfold recover
  dsimp only
  cases hterminal : t.terminal? with
  | none =>
    rw [hterminal] at hrest
    exact hrest _ hsettled (hskip _ _ hsettled)
  | some terminal =>
    rw [hterminal] at hrest
    cases ((s.settle v).branch v).fallbacks? with
    | none => exact hrest _ hsettled (hskip _ _ hsettled)
    | some fallbacks =>
      have hback := hsettled.trans (fallBack_kept finished? v terminal ((s.settle v).penalty v)
        ((s.settle v).progress v) fallbacks hsettled.sound (hsettled.keeps v hlive) hsettled.le)
      exact hrest _ hback (hskip _ _ hback)

/-! ## Supplying tokens -/

/-- The node of a token closes nothing but the end of the text. -/
theorem closes_leaf {t : Token} {k : Terminal} (hterminal : t.terminal? = some k) (hk : k ≠ .eof) :
    (leaf t false).closes = false := by
  have heof : (leaf t false).isEof = false := decide_eq_false fun heq => hk (Option.some.inj (hterminal.symm.trans heq))
  have herror : (leaf t false).isError = false := by
    show t.terminal?.isNone = false
    rw [hterminal]
    rfl
  rw [closes, heof, herror]
  rfl

/-- A token that was supplied is put on a new branch. -/
theorem supplied_kept (laws : TokenLaws good) (h : s.Sound good text) {b : Branch} (hb : s.BranchSound good text b)
    (hlive : b.status = .active) {k : Terminal} {state m : Nat} (hm : m ≤ s.size)
    (hstep : (.terminal k, state) ∈ Automaton.steps (s.spot b.vertex).state) :
    Kept good text m s ((s.add b).push s.size (some (.leaf
      { terminal? := some k, before := (s.spot b.vertex).place, start := (s.spot b.vertex).place
        stop := (s.spot b.vertex).place, isSupplied := true } false)) state) := by
  have hadded := kept_add h hb hlive hm
  have hbranch : (s.add b).branch s.size = b := (Stack.branch_add s b s.size).trans (if_pos rfl)
  refine hadded.trans ⟨hadded.sound.pushNode (hadded.keeps _ (Stack.isLive_of_size_le le_rfl)) ?_ ?_,
    Stack.keeps_push _ _ _, (Stack.size_push ..).symm ▸ hadded.le, fun u hu =>
    hadded.sound.place_push_of_ne (hu.trans_le hm).ne _ _⟩
  · rw [hbranch]
    exact ⟨sound_leaf (laws.supplied k _) rfl (Or.inl rfl) (fun hextra => by cases hextra), .step rfl rfl hstep, rfl,
      h.isIn _ hb.lt, laid_intact_leaf (le_refl (s.spot b.vertex).place.index) le_rfl false⟩
  · exact closes_leaf rfl fun heof => (Automaton.isStep_of_mem hstep).ne_eof (congrArg Symbol.terminal heof)

theorem supply_kept (laws : TokenLaws good) (h : s.Sound good text) (hlive : s.IsLive v) {k : Terminal} {state : Nat}
    (hstep : (.terminal k, state) ∈ Automaton.steps (s.state v)) (lookahead : Option Terminal) (limit : Nat) {m : Nat}
    (hm : m ≤ s.size) : Kept good text m s (supply s v k state lookahead limit).1 := by
  have hbranch := h.branch v
  have hsupplied := supplied_kept laws h (b := { s.branch v with fallbacks? := none })
    ⟨hbranch.lt, hbranch.isOpen, hbranch.waiting⟩ hlive hm hstep
  refine hsupplied.trans (reduceAll_kept lookahead s.size _ hsupplied.le (fun _ => ⟨?_, hm⟩) limit 0 false
    hsupplied.sound (hsupplied.keeps _ (Stack.isLive_of_size_le le_rfl)) (fun j hj => ?_) hsupplied.le
    (Or.inl ⟨rfl, le_rfl⟩))
  · exact ((Stack.size_push ..).trans (Stack.size_add ..)).le
  · exact Stack.isLive_of_size_le hj

theorem supplyAny_kept (laws : TokenLaws good) (v : Nat) (t : Terminal) (limit : Nat) {m : Nat} :
    ∀ (ks : List Terminal) {s : Stack}, s.Sound good text → s.IsLive v → m ≤ s.size →
      Kept good text m s (supplyAny v t limit ks s).1
  | [], s, h, _, hm => by
    rw [supplyAny]
    exact .refl h hm
  | k :: ks, s, h, hlive, hm => by
    rw [supplyAny]
    dsimp only
    cases htarget : Automaton.target? (s.state v) k with
    | none => exact supplyAny_kept laws v t limit ks h hlive hm
    | some next =>
      rw [Option.getD_some]
      split
      · exact supplyAny_kept laws v t limit ks h hlive hm
      · have hsupplied := supply_kept laws h hlive (Automaton.mem_steps_of_target? htarget)
          (if t = .eof then none else some t) limit hm
        split
        · rename_i s' heq
          rw [heq] at hsupplied
          exact hsupplied
        · rename_i s' heq
          rw [heq] at hsupplied
          exact hsupplied.trans
            (supplyAny_kept laws v t limit ks hsupplied.sound (hsupplied.keeps v hlive) hsupplied.le)

theorem breakOff_kept (laws : TokenLaws good) (t? : Option Terminal) (limit : Nat) {m : Nat} :
    ∀ (vs : List Nat) (isSupplied : Bool) {s : Stack}, s.Sound good text → (∀ v ∈ vs, s.IsLive v) → m ≤ s.size →
      Kept good text m s (breakOff t? limit vs isSupplied s)
  | [], _, s, h, _, hm => by
    rw [breakOff]
    exact .refl h hm
  | v :: vs, isSupplied, s, h, hvs, hm => by
    have hgo : ∀ (isSupplied : Bool) {s' : Stack}, Kept good text m s s' →
        Kept good text m s (breakOff t? limit vs isSupplied (s'.push v none Automaton.skipping)) := by
      intro isSupplied s' hs'
      have hpushed : Kept good text m s (s'.push v none Automaton.skipping) :=
        hs'.trans ⟨hs'.sound.pushGap (hs'.keeps v (hvs v (List.mem_cons_self ..))), Stack.keeps_push _ _ _,
          (Stack.size_push ..).symm ▸ hs'.le, fun u _ => hs'.sound.place_pushGap v _ u⟩
      exact hpushed.trans (breakOff_kept laws t? limit vs isSupplied hpushed.sound (fun w hw =>
        hpushed.keeps w (hvs w (List.mem_cons_of_mem _ hw))) hpushed.le)
    unfold breakOff
    cases isSupplied with
    | true => exact hgo true (.refl h hm)
    | false =>
      cases t? with
      | none => exact hgo false (.refl h hm)
      | some t =>
        have hsupplied := supplyAny_kept laws v t limit Terminal.supplies h (hvs v (List.mem_cons_self ..)) hm
        dsimp only
        generalize supplyAny v t limit Terminal.supplies s = supplied at hsupplied
        exact hgo supplied.2 hsupplied

/-- The branches that were made on the way are joined again, as far as they can be. -/
theorem joins_kept (v count : Nat) : ∀ (n : Nat) {s : Stack}, s.Sound good text → (∀ j, count ≤ j → s.IsLive j) →
    count ≤ s.size → Kept good text count s (n.repeat (fun s => if s.canJoin v count then s.join v count else s) s)
  | 0, s, h, _, hsize => .refl h hsize
  | n + 1, s, h, hnew, hsize => by
    have hrest := joins_kept v count n h hnew hsize
    show Kept good text count s (if _ then _ else _)
    split
    · exact hrest.join ‹_› le_rfl fun j hj => hrest.keeps j (hnew j hj.le)
    · exact hrest

theorem kept_remember (h : s.Sound good text) {m : Nat} (hm : m ≤ s.size) (v : Nat) :
    Kept good text m s (s.remember v) :=
  (Kept.refl h hm).setBranch ⟨(h.branch v).lt, (h.branch v).isOpen, (h.branch v).waiting⟩ rfl fun h => h

theorem repair_grown (laws : TokenLaws good) {r : Reader} (h : r.Sound good text) (hlive : r.stack.IsLive v)
    (hv : v < r.stack.size) {t : Token} (ht : t.Fits text) (hgood : good t)
    (hafter : (r.stack.place v).index ≤ t.start.index) (limit : Nat) :
    Grown good text r.stack.size (repair r v t limit) := by
  obtain ⟨s, level, finished?, finishes⟩ := r
  have hnew : ∀ j, s.size ≤ j → s.IsLive j := fun j hj => Stack.isLive_of_size_le hj
  have hreduced := reduceAll_kept none v s.size le_rfl (fun hsome => by cases hsome) limit 0 false h.stack hlive hnew
    le_rfl (Or.inl ⟨rfl, le_rfl⟩)
  have hbroken := hreduced.trans (breakOff_kept laws t.terminal? limit
    (v :: (List.range ((reduceAll none v s.size limit 0 v false s).1.size - s.size)).map (· + s.size)) false
    hreduced.sound (List.forall_mem_cons.2 ⟨hreduced.keeps v hlive, fun w hw => by
      obtain ⟨i, -, rfl⟩ := List.mem_map.1 hw
      exact hreduced.keeps _ (hnew _ (Nat.le_add_left _ _))⟩) hreduced.le)
  have hjoined := hbroken.trans (joins_kept v s.size ((reduceAll none v s.size limit 0 v false s).1.size - s.size)
    hbroken.sound (fun j hj => hbroken.keeps j (hnew j hj)) hbroken.le)
  have hremembered := hjoined.trans (kept_remember hjoined.sound hjoined.le v)
  exact recover_grown (r := ⟨_, level, finished?, finishes⟩) ⟨⟨hremembered.sound, h.finished⟩, hremembered.le⟩
    (hremembered.keeps v hlive) hv ht hgood (hremembered.place_eq v hv ▸ hafter)

/-! ## Going on -/

theorem shift_sound (h : s.Sound good text) (hlive : s.IsLive v) {t : Token} (ht : t.Fits text) (hgood : good t)
    (hafter : (s.place v).index ≤ t.start.index) {k : Terminal} (hterminal : t.terminal? = some k) {next : Nat}
    (hshift : Automaton.shift? (s.state v) k = some next) :
    (shift s v t next).Sound good text ∧ (shift s v t next).size = s.size := by
  have hstep := Automaton.mem_steps_of_shift? hshift
  have hpushed : (s.push v (some (.leaf t false)) next).Sound good text := by
    refine h.pushNode hlive ⟨sound_leaf hgood ?_ (Or.inr ht) (fun hextra => by cases hextra), .step rfl ?_ hstep, rfl,
      ht.stop_isIn, laid_intact_leaf hafter ht.le false⟩
      (closes_leaf hterminal fun heof => (Automaton.isStep_of_mem hstep).ne_eof (congrArg Symbol.terminal heof))
    · rw [hterminal]
      rfl
    · rw [symbol?, hterminal]
      rfl
  have hbranch := hpushed.branch v
  have hsize : (s.push v (some (.leaf t false)) next).size = s.size := Stack.size_push ..
  unfold shift
  dsimp only
  split
  · exact ⟨hpushed.setBranch v ⟨hbranch.lt, hbranch.isOpen, hbranch.waiting⟩, (Stack.size_setBranch ..).trans hsize⟩
  · exact ⟨hpushed, hsize⟩

theorem pause_sound (h : s.Sound good text) (hlive : s.IsLive v) {t : Token} (ht : t.Fits text) (hgood : good t)
    (hafter : (s.place v).index ≤ t.start.index) :
    (pause s v t).Sound good text ∧ (pause s v t).size = s.size :=
  ⟨h.setBranch v ⟨(h.branch v).lt, fun _ => h.isOpen hlive, fun u hu => by
    cases hu
    exact ⟨ht, hgood, hafter⟩⟩, Stack.size_setBranch ..⟩

set_option maxRecDepth 4000 in
/-- One round of going on with a token. -/
theorem proceed_succ (v n : Nat) (s : Stack) (level : Nat) (finished? : Option Node) (finishes : Nat) (t : Token) :
    proceed v (n + 1) ⟨s, level, finished?, finishes⟩ t =
      if s.state v = Automaton.skipping then recover ⟨s, level, finished?, finishes⟩ v t
      else
        match t.terminal? with
        | none => ⟨pause s v t, level, finished?, finishes⟩
        | some terminal =>
          match Automaton.reduction? (s.state v) terminal, Automaton.shift? (s.state v) terminal with
          | some rule, _ =>
            match reduce s v rule false with
            | (s, some w) => proceed v n ⟨s.replace v w, level, finished?, finishes⟩ t
            | (s, none) => ⟨s.halt v, level, finished?, finishes⟩
          | none, some next => ⟨shift s v t next, level, finished?, finishes⟩
          | none, none =>
            if s.state v = Automaton.accepting && terminal = .eof then accept ⟨s, level, finished?, finishes⟩ v t
            else if (Terminal.keyword? (t.start.textTo t.stop)) = some terminal &&
                Automaton.takes (s.state v) .name then
              proceed v n ⟨s, level, finished?, finishes⟩ { t with terminal? := some .name }
            else ⟨pause s v t, level, finished?, finishes⟩ := by
  rfl

theorem proceed_grown (laws : TokenLaws good) {v m : Nat} (hv : v < m) : ∀ (n : Nat) {r : Reader} {t : Token},
    Grown good text m r → r.stack.IsLive v → t.Fits text → good t → (r.stack.place v).index ≤ t.start.index →
    Grown good text m (proceed v n r t)
  | 0, ⟨s, level, finished?, finishes⟩, t, ⟨h, hm⟩, _, _, _, _ =>
    ⟨⟨h.stack.halt v, h.finished⟩, (Stack.size_halt ..).symm ▸ hm⟩
  | n + 1, ⟨s, level, finished?, finishes⟩, t, ⟨h, hm⟩, hlive, ht, hgood, hafter => by
    have hfinished : ∀ n ∈ finished?, n.IsRoot good text := h.finished
    have hpaused : Grown good text m ⟨pause s v t, level, finished?, finishes⟩ := by
      obtain ⟨hsound, hsize⟩ := pause_sound h.stack hlive ht hgood hafter
      exact ⟨⟨hsound, hfinished⟩, hsize.symm ▸ hm⟩
    rw [proceed_succ]
    split
    · exact recover_grown ⟨h, hm⟩ hlive hv ht hgood hafter
    · split
      · exact hpaused
      · rename_i terminal hterminal
        split
        · rename_i _ rule hrule
          have hcan : CanReduce (s.state v) rule false := Automaton.mem_complete_of_reduction? hrule
          obtain ⟨hreduced, hmade⟩ := reduce_reduced h.stack hlive hcan
          split
          · rename_i s' w heq
            rw [heq] at hreduced hmade
            obtain ⟨rfl, hlt⟩ := hmade w rfl
            have hreplaced := hreduced.replace h.stack le_rfl hlt hm
            exact proceed_grown laws hv n ⟨⟨hreplaced.sound, hfinished⟩, hreplaced.le⟩ (hreplaced.keeps v hlive) ht hgood
              (hreplaced.place_eq v hv ▸ hafter)
          · rename_i s' heq
            rw [heq] at hreduced
            exact ⟨⟨hreduced.sound.halt v, hfinished⟩, (Stack.size_halt ..).symm ▸ hm.trans hreduced.size_le⟩
        · rename_i next _ hnext
          obtain ⟨hsound, hsize⟩ := shift_sound h.stack hlive ht hgood hafter hterminal hnext
          exact ⟨⟨hsound, hfinished⟩, hsize.symm ▸ hm⟩
        · split
          · rename_i hend
            rw [Bool.and_eq_true, decide_eq_true_eq, decide_eq_true_eq] at hend
            exact ⟨accept_sound ⟨hend.2 ▸ hterminal, ht, hgood⟩ (h.stack.halt v) hfinished fun _ =>
              .whole hend.1 (h.stack.isOpen hlive), (size_accept ..).symm ▸ hm⟩
          · split
            · rename_i hkeyword
              rw [Bool.and_eq_true, decide_eq_true_eq] at hkeyword
              exact proceed_grown laws hv n ⟨h, hm⟩ hlive (ht.renamed hterminal hkeyword.1)
                (laws.renamed t terminal hgood hterminal hkeyword.1) hafter
            · exact hpaused

theorem next_grown (laws : TokenLaws good) {v m : Nat} (hv : v < m) (limit : Nat) {r : Reader}
    (h : Grown good text m r) (hlive : r.stack.IsLive v) : Grown good text m (next v limit r) := by
  obtain ⟨h, hm⟩ := h
  obtain ⟨hfits, -, hafter⟩ := token_fits r.stack v r.level (h.stack.place_isIn v)
  exact proceed_grown laws hv limit (r := ⟨_, _, _, _⟩) ⟨⟨h.stack, h.finished⟩, hm⟩ hlive hfits (laws.found ..) hafter

theorem advance_grown (laws : TokenLaws good) {v m : Nat} (hv : v < m) (limit : Nat) {r : Reader}
    (h : Grown good text m r) (hlive : r.stack.IsLive v) : Grown good text m (advance v limit r) := by
  unfold advance
  split
  · rename_i rule hrule
    have hcan : CanReduce (r.stack.state v) rule true := Automaton.makes_of_finished? hrule
    obtain ⟨hreduced, hmade⟩ := reduce_reduced h.sound.stack hlive hcan
    obtain ⟨s, level, finished?, finishes⟩ := r
    obtain ⟨h, hm⟩ := h
    dsimp only
    split
    · rename_i s' w heq
      rw [heq] at hreduced hmade
      obtain ⟨rfl, hlt⟩ := hmade w rfl
      have hreplaced := hreduced.replace h.stack le_rfl hlt hm
      exact next_grown laws hv limit ⟨⟨hreplaced.sound, h.finished⟩, hreplaced.le⟩ (hreplaced.keeps v hlive)
    · rename_i s' heq
      rw [heq] at hreduced
      exact ⟨⟨hreduced.sound.halt v, h.finished⟩, (Stack.size_halt ..).symm ▸ hm.trans hreduced.size_le⟩
  · exact next_grown laws hv limit h hlive

theorem follow_grown (laws : TokenLaws good) {v m : Nat} (hv : v < m) (limit : Nat) : ∀ (n last : Nat) {r : Reader},
    Grown good text m r → Grown good text m (follow v limit n last r).2
  | 0, last, r, h => by
    rw [follow]
    exact h
  | n + 1, last, r, h => by
    rw [follow]
    split
    · rename_i hactive
      have hadvanced := advance_grown laws hv limit h (Stack.isLive_of_isActive hactive)
      generalize advance v limit r = r' at hadvanced ⊢
      dsimp only
      split
      · exact hadvanced
      · exact follow_grown laws hv limit n last hadvanced
    · exact h

theorem followAll_sound (laws : TokenLaws good) (limit : Nat) : ∀ (n v last : Nat) {r : Reader}, r.Sound good text →
    (followAll limit n v last r).2.Sound good text
  | 0, _, _, r, h => by
    rw [followAll]
    exact h
  | n + 1, v, last, r, h => by
    rw [followAll]
    split
    · exact followAll_sound laws limit n _ _ (follow_grown laws ‹_› limit limit last ⟨h, le_rfl⟩).sound
    · exact h

/-! ## Ranking branches -/

theorem rank_sound : ∀ (n i j : Nat) (own : Standing) {s : Stack}, s.Sound good text →
    (rank n i j own s).1.Sound good text
  | 0, _, _, _, s, h => by
    rw [rank]
    exact h
  | n + 1, i, j, own, s, h => by
    have hsettled := h.settle j
    rw [rank]
    split
    · exact h
    · dsimp only
      split
      · exact hsettled.remove i
      · split
        · exact (hsettled.join ‹_›).1
        · exact rank_sound n i (j + 1) own hsettled
      · split
        · exact (hsettled.join ‹_›).1
        · exact rank_sound n i (j + 1) own hsettled
      · split
        · exact (hsettled.join ‹_›).1
        · have hi := hsettled.branch i
          have hswapped := hsettled.setBranch i (hsettled.branch j)
          exact rank_sound n i (j + 1) own (hswapped.setBranch j (hi.extends (Stack.extends_withBranches ..)))
      · exact rank_sound n (i - 1) j own (hsettled.remove j)

theorem rankAll_sound : ∀ (n i : Nat) (least? : Option Nat) {s : Stack}, s.Sound good text →
    (rankAll n i least? s).1.Sound good text
  | 0, _, _, s, h => by
    rw [rankAll]
    exact h
  | n + 1, i, least?, s, h => by
    rw [rankAll]
    split
    · exact h
    · split
      · exact rankAll_sound n i least? (h.remove i)
      · have hranked := rank_sound ((s.settle i).size + 1) i 0 (standing (s.settle i) i) (h.settle i)
        exact rankAll_sound n _ _ hranked

theorem resume_sound (laws : TokenLaws good) (limit : Nat) : ∀ (n i count : Nat) (isGoing : Bool) (least? : Option Nat)
    {r : Reader}, Grown good text count r → (resume limit n i count isGoing least? r).1.Sound good text
  | 0, _, _, _, _, r, h => by
    rw [resume]
    exact h.sound
  | n + 1, i, count, isGoing, least?, ⟨s, level, finished?, finishes⟩, ⟨h, hm⟩ => by
    have hfinished : ∀ n ∈ finished?, n.IsRoot good text := h.finished
    rw [resume]
    split
    · exact h
    · rename_i hcount
      have hi : i < s.size := (Nat.lt_of_not_le hcount).trans_le hm
      dsimp only
      split
      · rename_i t hpaused
        have hbranch := h.stack.branch i
        obtain ⟨ht, hgood, hafter⟩ := hbranch.waiting t hpaused
        split
        · have hactive := h.stack.setBranch i (b := { s.branch i with status := .active })
            ⟨hbranch.lt, fun _ => hbranch.isOpen (by rw [Branch.isHalted, hpaused]), fun t ht => by cases ht⟩
          have hsize := s.size_setBranch i { s.branch i with status := .active }
          have hlive : (s.setBranch i { s.branch i with status := .active }).IsLive i := by
            unfold Stack.IsLive
            rw [Stack.branch_setBranch, if_pos ⟨rfl, hi⟩]
          have hplace := s.place_setBranch (b := { s.branch i with status := .active }) rfl i
          have hrepaired := repair_grown laws (r := ⟨_, level, finished?, finishes⟩) ⟨hactive, hfinished⟩ hlive
            (hi.trans_eq hsize.symm) ht hgood (hplace ▸ hafter) limit
          exact resume_sound laws limit n _ _ _ _ ⟨hrepaired.sound, (hm.trans_eq hsize.symm).trans hrepaired.le⟩
        · refine resume_sound laws limit n _ _ _ _ ⟨⟨h.stack.remove i, hfinished⟩, ?_⟩
          show count - 1 ≤ (s.remove i).size
          rw [Stack.size_remove, if_pos hi]
          exact Nat.sub_le_sub_right hm 1
      · exact resume_sound laws limit n _ _ _ _ ⟨h, hm⟩

theorem condense_sound (laws : TokenLaws good) (limit : Nat) {r : Reader} (h : r.Sound good text) :
    (condense limit r).1.Sound good text := by
  obtain ⟨s, level, finished?, finishes⟩ := r
  have hranked := rankAll_sound limit 0 none h.stack
  refine resume_sound laws limit _ _ _ _ _ ⟨⟨hranked.withBranches fun b hb => ?_, h.finished⟩, le_rfl⟩
  exact hranked.branches b (List.mem_of_mem_take hb)

theorem run_isRoot (laws : TokenLaws good) (limit : Nat) : ∀ (n last : Nat) {r : Reader}, r.Sound good text →
    ∀ root ∈ run limit n last r, root.IsRoot good text
  | 0, _, r, h => by
    rw [run]
    exact h.finished
  | n + 1, last, r, h => by
    have hround := condense_sound laws limit (followAll_sound laws limit limit 0 last h)
    rw [run]
    split
    · exact h.finished
    · dsimp only
      split
      · exact hround.finished
      · exact run_isRoot laws limit n _ hround

end Reader

namespace Node

theorem ofText_isRoot {good : Token → Prop} (laws : TokenLaws good) {source : String} {root : Node}
    (h : ofText source = some root) : root.IsRoot good source.toList :=
  Reader.run_isRoot laws _ _ 0 (r := ⟨_, _, _, _⟩) ⟨.ofPlace (Place.isIn_ofText source), by simp⟩ root h

/-- Every token of the tree of a text is good. -/
theorem ofText_holds {good : Token → Prop} (laws : TokenLaws good) {source : String} {root : Node}
    (h : ofText source = some root) : root.Holds good := (ofText_isRoot laws h).stands.holds

theorem tokenLaws_true : TokenLaws fun _ => True :=
  ⟨fun _ _ _ => trivial, fun _ _ => trivial, fun _ _ _ _ _ => trivial⟩

/-- A tree without faults stands in the text. -/
theorem ofText_fits {source : String} {root : Node} (h : ofText source = some root) (hpenalty : root.penalty = 0) :
    root.Fits source.toList := (ofText_isRoot tokenLaws_true h).fits hpenalty

/-- What is intact in the tree of a text is there in reading order. -/
theorem ofText_laid {source : String} {root : Node} (h : ofText source = some root) :
    ∃ i j, Laid i (allIntact root.children) j := (ofText_isRoot tokenLaws_true h).laid

/-- Whatever has no fault in the tree of a text stands in the text. -/
theorem ofText_stands {source : String} {root : Node} (h : ofText source = some root) :
    root.Stands (fun _ => True) source.toList := (ofText_isRoot tokenLaws_true h).stands

end Node

end LuaAtlas.Syntax
