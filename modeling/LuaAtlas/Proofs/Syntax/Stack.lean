/-
Sound stacks. On a stack of readings every vertex is a place of the text, and every link leads from a vertex to another
as a node or a gap does. A reading that has come to its end is never gone on with: what closes it stands on top of
halted branches only. Adding, joining and dropping branches keeps all this, and so does putting nodes on top.
-/
import LuaAtlas.Proofs.Syntax.Way
import LuaAtlas.Syntax.Stack

namespace LuaAtlas.Syntax

open Node

namespace Stack

/-! ## Sound stacks -/

/-- The spot that a vertex stands for. -/
def spot (s : Stack) (i : Nat) : Spot := ⟨(s.vertex i).state, (s.vertex i).place⟩

/-- Whether readings can go on behind a vertex. -/
def IsOpen (s : Stack) (i : Nat) : Prop := ∀ e ∈ (s.vertex i).links, ∀ n, e.node? = some n → n.closes = false

/-- Whether a branch is being gone on with. -/
def IsLive (s : Stack) (v : Nat) : Prop := (s.branch v).status = .active

section

variable (good : Token → Prop) (text : List Char)

/-- What a link does between two spots. -/
inductive Leads (a : Spot) : Option Node → Spot → Prop
  | node {n : Node} {b : Spot} : Joins good text a n b → Leads a (some n) b
  | gap {b : Spot} : a.place = b.place → b.state = Automaton.skipping → Leads a none b

/-- A link of the vertex `i`. -/
structure LinkSound (s : Stack) (i : Nat) (e : Link) : Prop where
  lt : e.target < s.vertices.size
  leads : Leads good text (s.spot e.target) e.node? (s.spot i)
  isOpen : (∃ n, e.node? = some n ∧ n.isEof = true) ∨ s.IsOpen e.target

/-- A branch of the stack; a token that it waits for stands behind it. -/
structure BranchSound (s : Stack) (b : Branch) : Prop where
  lt : b.vertex < s.vertices.size
  isOpen : b.isHalted = false → s.IsOpen b.vertex
  waiting : ∀ t, b.status = .paused t → t.Fits text ∧ good t ∧ (s.spot b.vertex).place.index ≤ t.start.index

/-- A stack that reading a text can give. -/
structure Sound (s : Stack) : Prop where
  nonempty : 0 < s.vertices.size
  beginning : (s.spot 0).state = Automaton.beginning
  bottom : s.IsOpen 0
  isIn : ∀ i < s.vertices.size, (s.spot i).place.IsIn text
  links : ∀ i < s.vertices.size, ∀ e ∈ (s.vertex i).links, s.LinkSound good text i e
  branches : ∀ b ∈ s.branches, s.BranchSound good text b

end

/-- What a stack keeps when it grows: its vertices stand where they stood, and readings can go on behind them. -/
structure Extends (s s' : Stack) : Prop where
  size_le : s.vertices.size ≤ s'.vertices.size
  spot_eq : ∀ i < s.vertices.size, s'.spot i = s.spot i
  isOpen : ∀ i < s.vertices.size, s.IsOpen i → s'.IsOpen i

/-- Branches that are being gone on with stay so. -/
def Keeps (s s' : Stack) : Prop := ∀ j, s.IsLive j → s'.IsLive j

variable {good : Token → Prop} {text : List Char} {s s' s'' : Stack}

theorem Extends.refl (s : Stack) : s.Extends s := ⟨le_rfl, fun _ _ => rfl, fun _ _ h => h⟩

theorem Extends.trans (h : s.Extends s') (h' : s'.Extends s'') : s.Extends s'' :=
  ⟨h.size_le.trans h'.size_le, fun i hi => (h'.spot_eq i (hi.trans_le h.size_le)).trans (h.spot_eq i hi),
    fun i hi hopen => h'.isOpen i (hi.trans_le h.size_le) (h.isOpen i hi hopen)⟩

theorem Keeps.trans (h : s.Keeps s') (h' : s'.Keeps s'') : s.Keeps s'' := fun j hj => h' j (h j hj)

theorem LinkSound.extends (hs : s.Extends s') {i : Nat} (hi : i < s.vertices.size) {e : Link}
    (h : s.LinkSound good text i e) : s'.LinkSound good text i e where
  lt := h.lt.trans_le hs.size_le
  leads := by
    rw [hs.spot_eq i hi, hs.spot_eq e.target h.lt]
    exact h.leads
  isOpen := h.isOpen.imp_right (hs.isOpen e.target h.lt)

theorem BranchSound.extends (hs : s.Extends s') {b : Branch} (h : s.BranchSound good text b) :
    s'.BranchSound good text b :=
  ⟨h.lt.trans_le hs.size_le, fun hlive => hs.isOpen _ h.lt (h.isOpen hlive), by
    rw [hs.spot_eq _ h.lt]
    exact h.waiting⟩

theorem isLive_of_isActive {v : Nat} (h : (s.branch v).isActive = true) : s.IsLive v := by
  unfold Branch.isActive at h
  split at h
  · assumption
  · cases h

theorem IsLive.isHalted {v : Nat} (h : s.IsLive v) : (s.branch v).isHalted = false := by
  rw [Branch.isHalted, h]

theorem isLive_of_isHalted {v : Nat} (hhalted : (s.branch v).isHalted = false)
    (hpaused : (s.branch v).isPaused = false) : s.IsLive v := by
  unfold IsLive
  unfold Branch.isHalted at hhalted
  unfold Branch.isPaused at hpaused
  cases hstatus : (s.branch v).status with
  | active => rfl
  | paused t =>
    rw [hstatus] at hpaused
    cases hpaused
  | halted =>
    rw [hstatus] at hhalted
    cases hhalted

theorem IsLive.isPaused {v : Nat} (h : s.IsLive v) : (s.branch v).isPaused = false := by
  rw [Branch.isPaused, h]

namespace Sound

theorem branch (h : s.Sound good text) (v : Nat) : s.BranchSound good text (s.branch v) := by
  unfold Stack.branch
  cases hv : s.branches[v]? with
  | none => exact ⟨h.nonempty, fun _ => h.bottom, fun t ht => by cases ht⟩
  | some b => exact h.branches b (List.mem_of_getElem? hv)

theorem place_isIn (h : s.Sound good text) (v : Nat) : (s.place v).IsIn text := h.isIn _ (h.branch v).lt

/-- A branch on a vertex that another branch stood on is where that one was. -/
theorem place_eq (h : s.Sound good text) (hext : s.Extends s') {u w : Nat}
    (hvertex : (s'.branch u).vertex = (s.branch w).vertex) : s'.place u = s.place w := by
  show (s'.spot (s'.branch u).vertex).place = (s.spot (s.branch w).vertex).place
  rw [hvertex, hext.spot_eq _ (h.branch w).lt]

theorem isOpen (h : s.Sound good text) {v : Nat} (hlive : s.IsLive v) : s.IsOpen (s.branch v).vertex :=
  (h.branch v).isOpen hlive.isHalted

theorem ofPlace {p : Place} (hp : p.IsIn text) : (Stack.ofPlace p).Sound good text := by
  have hlinks : ∀ i < (Stack.ofPlace p).vertices.size, ((Stack.ofPlace p).vertex i).links = [] := by
    intro i hi
    obtain rfl : i = 0 := Nat.lt_one_iff.1 hi
    rfl
  refine ⟨Nat.one_pos, rfl, ?_, fun i hi => ?_, fun i hi e he => ?_, fun b hb => ?_⟩
  · intro e he
    rw [hlinks 0 Nat.one_pos] at he
    cases he
  · obtain rfl : i = 0 := Nat.lt_one_iff.1 hi
    exact hp
  · rw [hlinks i hi] at he
    cases he
  · obtain rfl := List.mem_singleton.1 hb
    refine ⟨Nat.one_pos, fun _ e he => ?_, fun t ht => by cases ht⟩
    rw [hlinks 0 Nat.one_pos] at he
    cases he

end Sound

/-! ## Changing branches -/

theorem branch_setBranch (s : Stack) (v : Nat) (b : Branch) (j : Nat) :
    (s.setBranch v b).branch j = if j = v ∧ v < s.size then b else s.branch j := by
  unfold setBranch branch size
  rw [List.getElem?_set]
  split
  · rename_i heq
    subst heq
    split
    · rename_i hlt
      simp [hlt]
    · rename_i hlt
      rw [if_neg fun h => hlt h.2, List.getElem?_eq_none (Nat.le_of_not_lt hlt)]
  · rename_i hne
    rw [if_neg fun h => hne h.1.symm]

theorem branch_remove (s : Stack) (w j : Nat) :
    (s.remove w).branch j = if j < w then s.branch j else s.branch (j + 1) := by
  unfold remove branch
  rw [List.getElem?_eraseIdx]
  split <;> rfl

theorem branch_add (s : Stack) (b : Branch) (j : Nat) :
    (s.add b).branch j = if j = s.size then b else s.branch j := by
  unfold add branch size
  rw [List.getElem?_append]
  split
  · rename_i hlt
    rw [if_neg hlt.ne]
  · rename_i hge
    split
    · rename_i heq
      subst heq
      simp
    · rename_i hne
      rw [List.getElem?_eq_none (by rw [List.length_singleton]; omega), List.getElem?_eq_none (by omega)]

theorem size_add (s : Stack) (b : Branch) : (s.add b).size = s.size + 1 := List.length_append

theorem size_setBranch (s : Stack) (v : Nat) (b : Branch) : (s.setBranch v b).size = s.size := List.length_set

theorem size_remove (s : Stack) (w : Nat) : (s.remove w).size = if w < s.size then s.size - 1 else s.size :=
  List.length_eraseIdx

/-- A branch that stays on its vertex stands where it stood, as the others do. -/
theorem place_setBranch (s : Stack) {v : Nat} {b : Branch} (hb : b.vertex = (s.branch v).vertex) (u : Nat) :
    (s.setBranch v b).place u = s.place u := by
  have hvertex : ((s.setBranch v b).branch u).vertex = (s.branch u).vertex := by
    rw [branch_setBranch]
    split
    · rename_i heq
      rw [hb, heq.1]
    · rfl
  show (s.vertex ((s.setBranch v b).branch u).vertex).place = (s.vertex (s.branch u).vertex).place
  rw [hvertex]

theorem place_remove (s : Stack) {u w : Nat} (hu : u < w) : (s.remove w).place u = s.place u := by
  unfold place top
  rw [branch_remove, if_pos hu]
  rfl

theorem place_replace {u v w : Nat} (hu : u < w) (hw : w < s.size) :
    (s.replace v w).place u = s.place (if u = v then w else u) := by
  unfold replace
  split
  · rename_i heq
    rw [if_neg (heq ▸ hu.ne)]
  · rw [place_remove _ hu]
    unfold place top
    rw [branch_setBranch]
    split
    · rename_i heq
      rw [if_pos heq.1]
      rfl
    · rename_i hne
      rw [if_neg fun heq => hne ⟨heq, heq ▸ hu.trans hw⟩]
      rfl

theorem isLive_of_size_le {v : Nat} (h : s.size ≤ v) : s.IsLive v := by
  unfold IsLive branch
  rw [List.getElem?_eq_none h]
  rfl

theorem vertex_of_size_le {v : Nat} (h : s.size ≤ v) : (s.branch v).vertex = 0 := by
  unfold branch
  rw [List.getElem?_eq_none h]
  rfl

theorem extends_withBranches (s : Stack) (bs : List Branch) : s.Extends { s with branches := bs } :=
  ⟨le_rfl, fun _ _ => rfl, fun _ _ h => h⟩

namespace Sound

/-- Other branches on the same vertices. -/
theorem withBranches (h : s.Sound good text) {bs : List Branch} (hbs : ∀ b ∈ bs, s.BranchSound good text b) :
    ({ s with branches := bs } : Stack).Sound good text :=
  ⟨h.nonempty, h.beginning, h.bottom, h.isIn,
    fun i hi e he => (h.links i hi e he).extends (extends_withBranches s bs) hi,
    fun b hb => (hbs b hb).extends (extends_withBranches s bs)⟩

theorem setBranch (h : s.Sound good text) (v : Nat) {b : Branch} (hb : s.BranchSound good text b) :
    (s.setBranch v b).Sound good text := by
  refine h.withBranches fun b' hb' => ?_
  rcases List.mem_or_eq_of_mem_set hb' with hb' | rfl
  · exact h.branches b' hb'
  · exact hb

theorem halt (h : s.Sound good text) (v : Nat) : (s.halt v).Sound good text :=
  h.setBranch v ⟨(h.branch v).lt, (fun hlive => by cases hlive), (fun t ht => by cases ht)⟩

theorem remove (h : s.Sound good text) (v : Nat) : (s.remove v).Sound good text :=
  h.withBranches fun b hb => h.branches b (List.mem_of_mem_eraseIdx hb)

theorem add (h : s.Sound good text) {b : Branch} (hb : s.BranchSound good text b) : (s.add b).Sound good text := by
  refine h.withBranches fun b' hb' => ?_
  rcases List.mem_append.1 hb' with hb' | hb'
  · exact h.branches b' hb'
  · cases List.mem_singleton.1 hb'
    exact hb

theorem replace (h : s.Sound good text) (v w : Nat) : (s.replace v w).Sound good text := by
  unfold Stack.replace
  split
  · exact h
  · have hw := h.branch w
    exact Sound.remove (h.setBranch v (b := { s.branch w with
      fallbacks? := (s.branch w).fallbacks? <|> (s.branch v).fallbacks? }) ⟨hw.lt, hw.isOpen, hw.waiting⟩) w

theorem settle (h : s.Sound good text) (v : Nat) : (s.settle v).Sound good text := by
  have hv := h.branch v
  exact h.setBranch v ⟨hv.lt, hv.isOpen, hv.waiting⟩

end Sound

theorem keeps_setBranch {v : Nat} {b : Branch} (hb : s.IsLive v → b.status = .active) :
    s.Keeps (s.setBranch v b) := by
  intro j hj
  unfold IsLive
  rw [branch_setBranch]
  split
  · rename_i heq
    exact hb (heq.1 ▸ hj)
  · exact hj

theorem keeps_add {b : Branch} (hb : b.status = .active) : s.Keeps (s.add b) := by
  intro j hj
  unfold IsLive
  rw [branch_add]
  split
  · exact hb
  · exact hj

/-- Removing a branch moves those behind it. -/
theorem keeps_remove {w : Nat} (hw : ∀ j, w < j → s.IsLive j) : s.Keeps (s.remove w) := by
  intro j hj
  unfold IsLive
  rw [branch_remove]
  split
  · exact hj
  · exact hw (j + 1) (by omega)

theorem keeps_replace {v w : Nat} (hw : ∀ j, w ≤ j → s.IsLive j) : s.Keeps (s.replace v w) := by
  unfold replace
  split
  · exact fun _ h => h
  · have hset : s.Keeps (s.setBranch v { s.branch w with
        fallbacks? := (s.branch w).fallbacks? <|> (s.branch v).fallbacks? }) :=
      keeps_setBranch fun _ => hw w le_rfl
    exact hset.trans (keeps_remove fun j hj => hset j (hw j hj.le))

theorem size_le_replace (v w : Nat) : s.size ≤ (s.replace v w).size + 1 := by
  unfold replace size
  split
  · exact Nat.le_succ _
  · unfold remove setBranch
    rw [List.length_eraseIdx, List.length_set]
    split <;> omega

/-- An ended branch stands where it stood, and nothing goes on from it. -/
theorem vertex_branch_halt (s : Stack) (v : Nat) : ((s.halt v).branch v).vertex = (s.branch v).vertex := by
  unfold halt
  rw [branch_setBranch]
  split <;> rfl

theorem extends_halt (s : Stack) (v : Nat) : s.Extends (s.halt v) := extends_withBranches s _

theorem not_isLive_halt {v : Nat} (hv : v < s.size) : ¬ (s.halt v).IsLive v := by
  unfold IsLive halt
  rw [branch_setBranch, if_pos ⟨rfl, hv⟩]
  exact fun h => by cases h

theorem isPaused_halt {v : Nat} (hv : v < s.size) : ((s.halt v).branch v).isPaused = false := by
  unfold halt
  rw [branch_setBranch, if_pos ⟨rfl, hv⟩]
  rfl

theorem size_halt (s : Stack) (v : Nat) : (s.halt v).size = s.size := s.size_setBranch v _

/-! ## Putting nodes on top -/

/-- The place behind a node, or behind a gap at `p`. -/
def landing (p : Place) (node? : Option Node) : Place := (node?.map (·.stop)).getD p

theorem vertex_push_of_lt {v state i : Nat} {node? : Option Node} (h : i < s.vertices.size) :
    (s.push v node? state).vertex i = s.vertex i := by
  unfold push vertex
  rw [Array.getElem?_push_lt h, Array.getElem?_eq_getElem h]

theorem vertex_push {v state : Nat} {node? : Option Node} : (s.push v node? state).vertex s.vertices.size =
    ⟨state, landing (s.place v) node?, [⟨(s.branch v).vertex, node?⟩],
      (s.top v).penalty + (node?.map (·.penalty)).getD 0, (s.top v).weight + (node?.map (·.weight)).getD 0⟩ := by
  unfold push vertex
  rw [Array.getElem?_push_size]
  rfl

theorem size_vertices_push (s : Stack) (v : Nat) (node? : Option Node) (state : Nat) :
    (s.push v node? state).vertices.size = s.vertices.size + 1 := by
  unfold push
  exact Array.size_push _

theorem size_push (s : Stack) (v : Nat) (node? : Option Node) (state : Nat) : (s.push v node? state).size = s.size := by
  unfold push size
  exact List.length_set

theorem extends_push (v : Nat) (node? : Option Node) (state : Nat) : s.Extends (s.push v node? state) where
  size_le := by
    rw [size_vertices_push]
    exact Nat.le_succ _
  spot_eq i hi := by
    unfold spot
    rw [vertex_push_of_lt hi]
  isOpen i hi h := by
    unfold IsOpen
    rw [vertex_push_of_lt hi]
    exact h

theorem branch_push (v : Nat) (node? : Option Node) (state j : Nat) : ∃ base,
    (s.push v node? state).branch j =
      if j = v ∧ v < s.size then { s.branch v with vertex := s.vertices.size, base := base } else s.branch j :=
  ⟨_, branch_setBranch s v _ j⟩

theorem status_push (v : Nat) (node? : Option Node) (state j : Nat) :
    ((s.push v node? state).branch j).status = (s.branch j).status := by
  obtain ⟨base, hbranch⟩ := s.branch_push v node? state j
  rw [hbranch]
  split
  · rename_i heq
    rw [heq.1]
  · rfl

theorem keeps_push (v : Nat) (node? : Option Node) (state : Nat) : s.Keeps (s.push v node? state) := by
  intro j hj
  unfold IsLive
  rw [status_push]
  exact hj

theorem vertex_branch_push {v : Nat} (hv : v < s.size) (node? : Option Node) (state : Nat) :
    ((s.push v node? state).branch v).vertex = s.vertices.size := by
  obtain ⟨base, hbranch⟩ := s.branch_push v node? state v
  rw [hbranch, if_pos ⟨rfl, hv⟩]

theorem branch_push_of_ne {v j : Nat} (h : j ≠ v) (node? : Option Node) (state : Nat) :
    (s.push v node? state).branch j = s.branch j := by
  obtain ⟨base, hbranch⟩ := s.branch_push v node? state j
  rw [hbranch, if_neg fun h' => h h'.1]

/-- The top of a branch that something was put on. -/
theorem spot_push {v : Nat} (hv : v < s.size) (node? : Option Node) (state : Nat) :
    (s.push v node? state).spot ((s.push v node? state).branch v).vertex = ⟨state, landing (s.place v) node?⟩ := by
  unfold spot
  rw [vertex_branch_push hv, vertex_push]

theorem Sound.place_push_of_ne (h : s.Sound good text) {v u : Nat} (hu : u ≠ v) (node? : Option Node) (state : Nat) :
    (s.push v node? state).place u = s.place u :=
  h.place_eq (s.extends_push v node? state) (by rw [branch_push_of_ne hu])

/-- Where reading breaks off, every branch stays where it is. -/
theorem Sound.place_pushGap (h : s.Sound good text) (v state u : Nat) :
    (s.push v none state).place u = s.place u := by
  rcases eq_or_ne u v with rfl | hu
  · rcases Nat.lt_or_ge u s.size with hlt | hge
    · exact congrArg Spot.place (spot_push hlt none state)
    · refine h.place_eq (s.extends_push u none state) ?_
      rw [vertex_of_size_le hge, vertex_of_size_le (by rw [size_push]; exact hge)]
  · exact h.place_push_of_ne hu none state

/-- Something is put on a branch that does not wait: the end of the text, or what can stand behind its top. What closes a
reading is put on halted branches only. -/
theorem Sound.push (h : s.Sound good text) (v : Nat) {node? : Option Node} {state : Nat}
    (hleads : Leads good text (s.spot (s.branch v).vertex) node? ⟨state, landing (s.place v) node?⟩)
    (hopen : (∃ n, node? = some n ∧ n.isEof = true) ∨ s.IsOpen (s.branch v).vertex)
    (hpaused : v < s.size → (s.branch v).isPaused = false)
    (hcloses : v < s.size → s.IsLive v → ∀ n, node? = some n → n.closes = false) :
    (s.push v node? state).Sound good text := by
  have hext := s.extends_push v node? state
  have hv := h.branch v
  have htop : (s.push v node? state).spot s.vertices.size = ⟨state, landing (s.place v) node?⟩ := by
    unfold spot
    rw [vertex_push]
  have hlink : (s.push v node? state).LinkSound good text s.vertices.size ⟨(s.branch v).vertex, node?⟩ := by
    refine ⟨hv.lt.trans_le hext.size_le, ?_, hopen.imp_right (hext.isOpen _ hv.lt)⟩
    rw [htop, hext.spot_eq _ hv.lt]
    exact hleads
  have hcases : ∀ i < (s.push v node? state).vertices.size, i < s.vertices.size ∨ i = s.vertices.size := by
    intro i hi
    rw [size_vertices_push] at hi
    omega
  refine ⟨h.nonempty.trans_le hext.size_le, (congrArg Spot.state (hext.spot_eq 0 h.nonempty)).trans h.beginning,
    hext.isOpen 0 h.nonempty h.bottom, fun i hi => ?_, fun i hi e he => ?_, fun b hb => ?_⟩
  · rcases hcases i hi with hlt | rfl
    · rw [hext.spot_eq i hlt]
      exact h.isIn i hlt
    · rw [htop]
      cases hleads with
      | node hjoins => exact hjoins.isIn
      | gap _ _ => exact h.place_isIn v
  · rcases hcases i hi with hlt | rfl
    · rw [vertex_push_of_lt hlt] at he
      exact (h.links i hlt e he).extends hext hlt
    · rw [vertex_push] at he
      cases List.mem_singleton.1 he
      exact hlink
  · rcases Nat.lt_or_ge v s.size with hlt | hge
    · rcases List.mem_or_eq_of_mem_set hb with hb | rfl
      · exact (h.branches b hb).extends hext
      · have hpaused := hpaused hlt
        refine ⟨by rw [size_vertices_push]; exact Nat.lt_succ_self _, fun hhalted e he n hn => ?_, fun t ht => ?_⟩
        · rw [vertex_push] at he
          cases List.mem_singleton.1 he
          exact hcloses hlt (isLive_of_isHalted hhalted hpaused) n hn
        · rw [Branch.isPaused, show (s.branch v).status = .paused t from ht] at hpaused
          cases hpaused
    · have hsame : (s.push v node? state).branches = s.branches := List.set_eq_of_length_le hge
      rw [hsame] at hb
      exact (h.branches b hb).extends hext

/-- A node that closes nothing is put on a branch. -/
theorem Sound.pushNode (h : s.Sound good text) {v : Nat} (hlive : s.IsLive v) {n : Node} {state : Nat}
    (hjoins : Joins good text (s.spot (s.branch v).vertex) n ⟨state, n.stop⟩) (hcloses : n.closes = false) :
    (s.push v (some n) state).Sound good text :=
  h.push v (.node hjoins) (Or.inr (h.isOpen hlive)) (fun _ => hlive.isPaused) fun _ _ m hm => by
    cases hm
    exact hcloses

theorem Sound.pushGap (h : s.Sound good text) {v : Nat} (hlive : s.IsLive v) :
    (s.push v none Automaton.skipping).Sound good text :=
  h.push v (.gap rfl rfl) (Or.inr (h.isOpen hlive)) (fun _ => hlive.isPaused) fun _ _ m hm => by cases hm

/-- Whether a branch ends before or after a node is put on it makes no difference. -/
theorem halt_push (s : Stack) (v : Nat) (n : Node) (state : Nat) :
    (s.push v (some n) state).halt v = (s.halt v).push v (some n) state := by
  have hpush : ∀ s : Stack, s.push v (some n) state = ⟨s.vertices.push ⟨state, n.stop,
      [⟨(s.branch v).vertex, some n⟩], (s.top v).penalty + n.penalty, (s.top v).weight + n.weight⟩,
      s.branches.set v { s.branch v with vertex := s.vertices.size }⟩ := fun _ => rfl
  rcases Nat.lt_or_ge v s.size with hv | hv
  · have hhalt : (s.halt v).branch v = { s.branch v with status := .halted } :=
      (branch_setBranch s v _ v).trans (if_pos ⟨rfl, hv⟩)
    have hbranch : (s.push v (some n) state).branch v = { s.branch v with vertex := s.vertices.size } :=
      (branch_setBranch s v _ v).trans (if_pos ⟨rfl, hv⟩)
    have htop : (s.halt v).top v = s.top v := by
      unfold top
      rw [hhalt]
      rfl
    rw [hpush (s.halt v), hhalt, htop]
    unfold halt setBranch
    rw [hbranch, hpush s, List.set_set, List.set_set]
  · have hhalt : ∀ s : Stack, s.size ≤ v → s.halt v = s := fun s hv => by
      unfold halt setBranch
      rw [List.set_eq_of_length_le hv]
    rw [hhalt s hv, hhalt _ (by rw [size_push]; exact hv)]

/-- Extra nodes that follow each other are put on a branch that stays in its state. -/
theorem Sound.pushAll : ∀ {nodes : List Node} {s : Stack} {v state : Nat} {q : Place}, s.Sound good text → s.IsLive v →
    v < s.size → s.state v = state → (∀ n ∈ nodes, n.isExtra = true ∧ n.Sound good text ∧ n.closes = false) →
    Follows text (s.place v) nodes q →
    (s.pushAll v nodes state).Sound good text ∧ s.Extends (s.pushAll v nodes state) ∧
      (s.pushAll v nodes state).place v = q ∧ s.Keeps (s.pushAll v nodes state) ∧
      (s.pushAll v nodes state).size = s.size ∧ ∀ j, j ≠ v → (s.pushAll v nodes state).branch j = s.branch j
  | [], s, v, _, _, h, _, _, _, _, hfollows => ⟨h, .refl s, hfollows, fun _ h => h, rfl, fun _ _ => rfl⟩
  | n :: nodes, s, v, state, q, h, hlive, hv, hstate, hnodes, hfollows => by
    obtain ⟨hextra, hn, hcloses⟩ := hnodes n (List.mem_cons_self ..)
    have hskipped : n.isSkipped = false := by
      cases n with
      | leaf t e => rfl
      | tree head cs e d =>
        refine decide_eq_false ?_
        rintro rfl
        have hnot := hn.counted.2
        rw [show e = true from hextra] at hnot
        cases hnot
    have hjoins : Joins good text (s.spot (s.branch v).vertex) n ⟨state, n.stop⟩ := by
      refine ⟨hn, ?_, rfl, hfollows.2.1, hfollows.1⟩
      rw [show (s.spot (s.branch v).vertex).state = state from hstate]
      exact .extra hextra hskipped
    have hpushed := h.pushNode hlive hjoins hcloses
    have hspot := spot_push hv (some n) state
    obtain ⟨hsound, hext, hplace, hkeeps, hsize, hbranch⟩ := Sound.pushAll hpushed
      (s.keeps_push v (some n) state v hlive) (by rw [size_push]; exact hv) (congrArg Spot.state hspot)
      (fun m hm => hnodes m (List.mem_cons_of_mem _ hm))
      (by rw [show (s.push v (some n) state).place v = n.stop from congrArg Spot.place hspot]; exact hfollows.2.2)
    refine ⟨hsound, (s.extends_push v (some n) state).trans hext, hplace, (s.keeps_push v (some n) state).trans hkeeps,
      hsize.trans (s.size_push v (some n) state), fun j hj => ?_⟩
    exact (hbranch j hj).trans (branch_push_of_ne hj (some n) state)

/-! ## Going down -/

/-- A way down the stack from the vertex `j`, with the nodes on it, lowest first. -/
inductive Path (s : Stack) (j : Nat) : Nat → List Node → Nat → Prop
  | stay : Path s j j [] 0
  | node {i d : Nat} {ns : List Node} {e : Link} {n : Node} : Path s j i ns d → e ∈ (s.vertex i).links →
      e.node? = some n → Path s j e.target (n :: ns) (if n.isExtra then d else d + 1)
  | gap {i d : Nat} {ns : List Node} {e : Link} : Path s j i ns d → e ∈ (s.vertex i).links → e.node? = none →
      Path s j e.target ns (d + 1)

theorem Path.follow {j : Nat} {t : Trail} (h : s.Path j t.vertex t.nodes t.depth) {e : Link}
    (he : e ∈ (s.vertex t.vertex).links) : s.Path j (t.follow e).vertex (t.follow e).nodes (t.follow e).depth := by
  unfold Trail.follow
  split
  · rename_i n hn
    exact .node h he hn
  · rename_i hn
    exact .gap h he hn

theorem Path.count_le {j i d : Nat} {ns : List Node} (h : s.Path j i ns d) : count ns ≤ d := by
  induction h with
  | stay => exact le_rfl
  | @node i d ns e n _ _ _ ih =>
    cases hextra : n.isExtra with
    | true => rwa [count_cons_extra hextra, if_pos rfl]
    | false =>
      rw [count_cons hextra, if_neg Bool.false_ne_true]
      omega
  | gap _ _ _ ih => omega

/-- What leads down from where readings can go on leads to where they can go on, as a way does. -/
theorem Path.way (hs : s.Sound good text) {j i d : Nat} {ns : List Node} (h : s.Path j i ns d)
    (hj : j < s.vertices.size) (hopen : s.IsOpen j) :
    i < s.vertices.size ∧ s.IsOpen i ∧ Way good text (s.spot i) ns d (s.spot j) := by
  induction h with
  | stay => exact ⟨hj, hopen, .stay _⟩
  | @node i d ns e n _ he hn ih =>
    obtain ⟨hi, hiOpen, hway⟩ := ih
    have hlink := hs.links i hi e he
    have hcloses := hiOpen e he n hn
    refine ⟨hlink.lt, hlink.isOpen.resolve_left ?_, ?_⟩
    · rintro ⟨m, hm, heof⟩
      cases hn.symm.trans hm
      rw [closes, heof] at hcloses
      cases hcloses
    · have hleads := hlink.leads
      rw [hn] at hleads
      cases hleads with
      | node hjoins => exact .pass hjoins hcloses hway
  | @gap i d ns e _ he hn ih =>
    obtain ⟨hi, hiOpen, hway⟩ := ih
    have hlink := hs.links i hi e he
    refine ⟨hlink.lt, hlink.isOpen.resolve_left ?_, ?_⟩
    · rintro ⟨m, hm, -⟩
      rw [hn] at hm
      cases hm
    · have hleads := hlink.leads
      rw [hn] at hleads
      cases hleads with
      | gap hplace hstate => exact .gap hplace hstate hway

/-- Every node below a vertex is put together as it should be. -/
theorem Path.sound (hs : s.Sound good text) {j i d : Nat} {ns : List Node} (h : s.Path j i ns d)
    (hj : j < s.vertices.size) : i < s.vertices.size ∧ ∀ n ∈ ns, n.Sound good text := by
  induction h with
  | stay => exact ⟨hj, List.forall_mem_nil _⟩
  | @node i d ns e n _ he hn ih =>
    have hlink := hs.links i ih.1 e he
    have hleads := hlink.leads
    rw [hn] at hleads
    cases hleads with
    | node hjoins => exact ⟨hlink.lt, List.forall_mem_cons.2 ⟨hjoins.sound, ih.2⟩⟩
  | @gap i d ns e _ he _ ih => exact ⟨(hs.links i ih.1 e he).lt, ih.2⟩

/-- The nodes above a vertex lead from its place to the one at the top. -/
theorem Path.follows (hs : s.Sound good text) {j i d : Nat} {ns : List Node} (h : s.Path j i ns d)
    (hj : j < s.vertices.size) : Follows text (s.spot i).place ns (s.spot j).place := by
  induction h with
  | stay => rfl
  | @node i d ns e n hpath he hn ih =>
    have hleads := (hs.links i (hpath.sound hs hj).1 e he).leads
    rw [hn] at hleads
    cases hleads with
    | node hjoins =>
      have hstop := hjoins.stop
      exact ⟨hstop ▸ hjoins.after, hstop ▸ hjoins.isIn, hstop ▸ ih⟩
  | @gap i d ns e hpath he hn ih =>
    have hleads := (hs.links i (hpath.sound hs hj).1 e he).leads
    rw [hn] at hleads
    cases hleads with
    | gap hplace _ =>
      rw [hplace]
      exact ih

theorem Path.withBranches {j i d : Nat} {ns : List Node} (h : s.Path j i ns d) (bs : List Branch) :
    Path { s with branches := bs } j i ns d := by
  induction h with
  | stay => exact .stay
  | node _ he hn ih => exact .node ih he hn
  | gap _ he hn ih => exact .gap ih he hn

theorem Path.halt {j i d : Nat} {ns : List Node} (h : s.Path j i ns d) (v : Nat) : (s.halt v).Path j i ns d :=
  h.withBranches _

/-- What leads down from a vertex with one link takes that link first. -/
theorem Path.of_single {j k i d : Nat} {n : Node} {ns : List Node} (h : s.Path j i ns d)
    (hlinks : (s.vertex j).links = [⟨k, some n⟩]) :
    i = j ∧ ns = [] ∨ ∃ ms d', ns = ms ++ [n] ∧ s.Path k i ms d' := by
  induction h with
  | stay => exact Or.inl ⟨rfl, rfl⟩
  | @node i d ns e m _ he hm ih =>
    right
    rcases ih with ⟨rfl, rfl⟩ | ⟨ms, d', rfl, hrest⟩
    · rw [hlinks] at he
      cases List.mem_singleton.1 he
      cases hm
      exact ⟨[], 0, rfl, .stay⟩
    · exact ⟨m :: ms, _, rfl, .node hrest he hm⟩
  | @gap i d ns e _ he hm ih =>
    right
    rcases ih with ⟨rfl, rfl⟩ | ⟨ms, d', rfl, hrest⟩
    · rw [hlinks] at he
      cases List.mem_singleton.1 he
      cases hm
    · exact ⟨ms, _, rfl, .gap hrest he hm⟩

section Visits

variable {σ : Type} {visit : σ → Trail → σ × Bool} {P : σ → Prop} {Q : Trail → Prop}

theorem stride_induction
    (hfollow : ∀ acc t e, Q t → (visit acc t).2 = false → e ∈ (s.vertex t.vertex).links → Q (t.follow e))
    (hvisit : ∀ acc t, P acc → Q t → P (visit acc t).1) : ∀ (ts : List Trail) {acc : σ} {kept forked : List Trail},
      P acc → (∀ t ∈ kept, Q t) → (∀ t ∈ forked, Q t) → (∀ t ∈ ts, Q t) →
      P (s.stride visit acc kept forked ts).1 ∧ ∀ t ∈ (s.stride visit acc kept forked ts).2, Q t
  | [], acc, kept, forked, hacc, hkept, hforked, _ => by
    rw [stride]
    refine ⟨hacc, fun t ht => ?_⟩
    rw [List.mem_append, List.mem_reverse, List.mem_reverse] at ht
    exact ht.elim (hkept t) (hforked t)
  | t :: ts, acc, kept, forked, hacc, hkept, hforked, hts => by
    have ht := hts t (List.mem_cons_self ..)
    have hrest : ∀ u ∈ ts, Q u := fun u hu => hts u (List.mem_cons_of_mem _ hu)
    have hnew := hvisit acc t hacc ht
    rw [stride]
    dsimp only
    have hlinks : ∀ e ∈ (if (visit acc t).2 then [] else (s.vertex t.vertex).links), Q (t.follow e) := by
      intro e he
      split at he
      · cases he
      · rename_i hover
        exact hfollow acc t e ht (Bool.eq_false_iff.2 hover) he
    split
    · exact stride_induction hfollow hvisit ts hnew hkept hforked hrest
    · rename_i e es heq
      rw [heq] at hlinks
      refine stride_induction hfollow hvisit ts hnew (List.forall_mem_cons.2 ⟨?_, hkept⟩) ?_ hrest
      · exact hlinks e (List.mem_cons_self ..)
      · intro u hu
        rw [List.mem_append, List.mem_reverse, List.mem_map] at hu
        rcases hu with ⟨f, hf, rfl⟩ | hu
        · exact hlinks f (List.mem_cons_of_mem _ (List.mem_of_mem_take hf))
        · exact hforked u hu

theorem descend_induction
    (hfollow : ∀ acc t e, Q t → (visit acc t).2 = false → e ∈ (s.vertex t.vertex).links → Q (t.follow e))
    (hvisit : ∀ acc t, P acc → Q t → P (visit acc t).1) : ∀ (n : Nat) {acc : σ} {ts : List Trail},
      P acc → (∀ t ∈ ts, Q t) → P (s.descend visit n acc ts)
  | 0, _, _, hacc, _ => by
    rw [descend]
    exact hacc
  | n + 1, acc, [], hacc, _ => by
    rw [descend]
    · exact hacc
    · exact Nat.succ_ne_zero n
  | n + 1, acc, t :: ts, hacc, hts => by
    rw [descend]
    · obtain ⟨hinv, htrails⟩ := stride_induction (s := s) hfollow hvisit (t :: ts) hacc (List.forall_mem_nil _)
        (List.forall_mem_nil _) hts
      exact descend_induction hfollow hvisit n hinv htrails
    · simp

/-- What is collected on the ways down satisfies `P` when every way that is visited satisfies `Q`. -/
theorem explore_induction (v : Nat) {acc : σ} (hstart : Q ⟨(s.branch v).vertex, [], 0⟩)
    (hfollow : ∀ acc t e, Q t → (visit acc t).2 = false → e ∈ (s.vertex t.vertex).links → Q (t.follow e))
    (hacc : P acc) (hvisit : ∀ acc t, P acc → Q t → P (visit acc t).1) : P (s.explore v visit acc) := by
  refine descend_induction hfollow hvisit _ hacc fun t ht => ?_
  cases List.mem_singleton.1 ht
  exact hstart

end Visits

/-- A vertex below the spot `c` with the readings that lead there, each of them as short as it can be. -/
structure IsGroup (good : Token → Prop) (text : List Char) (s : Stack) (depth : Nat) (c : Spot)
    (g : Nat × List (List Node)) : Prop where
  lt : g.1 < s.vertices.size
  isOpen : s.IsOpen g.1
  nonempty : g.2 ≠ []
  way : ∀ ns ∈ g.2, Way good text (s.spot g.1) ns depth c
  tight : ∀ ns ∈ g.2, ∀ n ms, ns = n :: ms → count ms < depth

theorem IsGroup.extends (hs : s.Extends s') {depth : Nat} {c : Spot} {g : Nat × List (List Node)}
    (h : s.IsGroup good text depth c g) : s'.IsGroup good text depth c g where
  lt := h.lt.trans_le hs.size_le
  isOpen := hs.isOpen _ h.lt h.isOpen
  nonempty := h.nonempty
  way ns hns := by
    rw [hs.spot_eq _ h.lt]
    exact h.way ns hns
  tight := h.tight

theorem isGroup_gather {depth : Nat} {c : Spot} {t : Trail} (hlt : t.vertex < s.vertices.size)
    (hopen : s.IsOpen t.vertex) (hway : Way good text (s.spot t.vertex) t.nodes depth c)
    (htight : ∀ n ms, t.nodes = n :: ms → count ms < depth) : ∀ {groups : List (Nat × List (List Node))},
      (∀ g ∈ groups, s.IsGroup good text depth c g) → ∀ g ∈ gather t groups, s.IsGroup good text depth c g
  | [], _, g, hg => by
    cases List.mem_singleton.1 hg
    refine ⟨hlt, hopen, by simp, fun ns hns => ?_, fun ns hns => ?_⟩
    all_goals cases List.mem_singleton.1 hns
    · exact hway
    · exact htight
  | (i, alternatives) :: rest, hgroups, g, hg => by
    have hfirst := hgroups (i, alternatives) (List.mem_cons_self ..)
    have hrest : ∀ g ∈ rest, s.IsGroup good text depth c g := fun g hg => hgroups g (List.mem_cons_of_mem _ hg)
    unfold gather at hg
    split at hg
    · rename_i heq
      rcases List.mem_cons.1 hg with rfl | hg
      · refine ⟨hfirst.lt, hfirst.isOpen, by simp, fun ns hns => ?_, fun ns hns => ?_⟩
        all_goals
          rcases List.mem_append.1 hns with hns | hns
        · exact hfirst.way ns hns
        · cases List.mem_singleton.1 hns
          subst heq
          exact hway
        · exact hfirst.tight ns hns
        · cases List.mem_singleton.1 hns
          exact htight
      · exact hrest g hg
    · rcases List.mem_cons.1 hg with rfl | hg
      · exact hfirst
      · exact isGroup_gather hlt hopen hway htight hrest g hg

/-- The vertices below a branch. -/
theorem isGroup_under (h : s.Sound good text) {v : Nat} (hlive : s.IsLive v) (depth : Nat) :
    ∀ g ∈ s.under v depth, s.IsGroup good text depth (s.spot (s.branch v).vertex) g := by
  have hv := h.branch v
  unfold under
  refine explore_induction v (P := fun groups => ∀ g ∈ groups,
      s.IsGroup good text depth (s.spot (s.branch v).vertex) g)
    (Q := fun t => s.Path (s.branch v).vertex t.vertex t.nodes t.depth ∧ t.depth ≤ depth ∧
      ∀ n ms, t.nodes = n :: ms → count ms < depth) ⟨.stay, Nat.zero_le _, fun n ms hms => by cases hms⟩
    ?_ (fun g hg => by cases hg) ?_
  · intro acc t e ⟨hpath, hle, htight⟩ hover he
    have hlt : t.depth < depth := by
      refine hle.lt_of_ne fun heq => ?_
      rw [if_pos heq] at hover
      cases hover
    have hcount := hpath.count_le
    refine ⟨hpath.follow he, ?_, ?_⟩
    · unfold Trail.follow
      split
      · dsimp only
        split <;> omega
      · exact hlt
    · intro n ms hms
      unfold Trail.follow at hms
      split at hms
      · cases hms
        exact hcount.trans_lt hlt
      · exact htight n ms hms
  · intro acc t hacc ⟨hpath, _, htight⟩
    split
    · rename_i heq
      obtain ⟨hlt, hopen, hway⟩ := hpath.way h hv.lt (h.isOpen hlive)
      exact isGroup_gather hlt hopen (heq ▸ hway) htight hacc
    · exact hacc

/-- The readings of a branch are the nodes on the ways down to where nothing has been read. -/
theorem path_of_readings (v : Nat) : ∀ ns ∈ s.readings v, ∃ i d,
    s.Path (s.branch v).vertex i ns d ∧ (s.vertex i).links = [] := by
  unfold readings
  refine explore_induction v (P := fun acc : List (List Node) => ∀ ns ∈ acc, ∃ i d,
      s.Path (s.branch v).vertex i ns d ∧ (s.vertex i).links = [])
    (Q := fun t => s.Path (s.branch v).vertex t.vertex t.nodes t.depth) .stay
    (fun acc t e hpath _ he => hpath.follow he) (fun ns hns => by cases hns) fun acc t hacc hpath => ?_
  split
  · rename_i hempty
    intro ns hns
    rcases List.mem_append.1 hns with hns | hns
    · exact hacc ns hns
    · cases List.mem_singleton.1 hns
      exact ⟨t.vertex, t.depth, hpath, List.isEmpty_iff.1 hempty⟩
  · exact hacc

/-! ## Joining branches -/

/-- A link that can be added to the vertex `i`. -/
structure CanLink (good : Token → Prop) (text : List Char) (s : Stack) (i : Nat) (e : Link) : Prop where
  lt : e.target < s.vertices.size
  leads : Leads good text (s.spot e.target) e.node? (s.spot i)
  closes : ∀ n, e.node? = some n → n.closes = false
  isOpen : s.IsOpen e.target

theorem CanLink.extends (hs : s.Extends s') {i : Nat} (hi : i < s.vertices.size) {e : Link}
    (h : s.CanLink good text i e) : s'.CanLink good text i e where
  lt := h.lt.trans_le hs.size_le
  leads := by
    rw [hs.spot_eq i hi, hs.spot_eq e.target h.lt]
    exact h.leads
  closes := h.closes
  isOpen := hs.isOpen _ h.lt h.isOpen

theorem CanLink.linkSound {i : Nat} {e : Link} (h : s.CanLink good text i e) : s.LinkSound good text i e :=
  ⟨h.lt, h.leads, Or.inr h.isOpen⟩

/-- The links of a vertex behind which readings can go on fit every vertex at the same spot. -/
theorem Sound.canLink (h : s.Sound good text) {i j : Nat} (hi : i < s.vertices.size) (hopen : s.IsOpen i)
    (hspot : s.spot j = s.spot i) {e : Link} (he : e ∈ (s.vertex i).links) : s.CanLink good text j e := by
  have hlink := h.links i hi e he
  refine ⟨hlink.lt, hspot ▸ hlink.leads, hopen e he, hlink.isOpen.resolve_left ?_⟩
  rintro ⟨n, hn, heof⟩
  have hcloses := hopen e he n hn
  rw [closes, heof] at hcloses
  cases hcloses

/-- Vertices in the same situation stand for the same spot. -/
theorem Sound.spot_eq (h : s.Sound good text) {i j : Nat} (hi : i < s.vertices.size) (hj : j < s.vertices.size)
    (hsame : sameSituation (s.vertex i) (s.vertex j) = true) : s.spot i = s.spot j := by
  unfold sameSituation at hsame
  simp only [Bool.and_eq_true, decide_eq_true_eq] at hsame
  have hplace : (s.vertex i).place = (s.vertex j).place := (h.isIn i hi).eq_of_byte (h.isIn j hj) hsame.1.2
  unfold spot
  rw [hsame.1.1, hplace]

theorem vertex_linked {i : Nat} (hi : i < s.vertices.size) (v : Vertex) (j : Nat) :
    (⟨s.vertices.setIfInBounds i v, s.branches⟩ : Stack).vertex j = if j = i then v else s.vertex j := by
  unfold vertex
  rw [Array.getElem?_setIfInBounds]
  split
  · rename_i heq
    subst heq
    simp
  · rename_i hne
    rw [if_neg fun h => hne h.symm]

/-- A link is added to a vertex. -/
theorem Sound.link (h : s.Sound good text) {i : Nat} {e : Link} (hi : i < s.vertices.size)
    (he : s.CanLink good text i e) {v : Vertex} (hstate : v.state = (s.vertex i).state)
    (hplace : v.place = (s.vertex i).place) (hlinks : v.links = (s.vertex i).links ++ [e]) :
    (⟨s.vertices.setIfInBounds i v, s.branches⟩ : Stack).Sound good text ∧
      s.Extends ⟨s.vertices.setIfInBounds i v, s.branches⟩ := by
  have hsize : (s.vertices.setIfInBounds i v).size = s.vertices.size := Array.size_setIfInBounds
  have hspot : ∀ j, (⟨s.vertices.setIfInBounds i v, s.branches⟩ : Stack).spot j = s.spot j := by
    intro j
    unfold spot
    rw [vertex_linked hi]
    split
    · rename_i heq
      rw [hstate, hplace, heq]
    · rfl
  have hmem : ∀ j, ∀ f ∈ ((⟨s.vertices.setIfInBounds i v, s.branches⟩ : Stack).vertex j).links,
      f ∈ (s.vertex j).links ∨ j = i ∧ f = e := by
    intro j f hf
    rw [vertex_linked hi] at hf
    split at hf
    · rename_i heq
      rw [hlinks, List.mem_append, List.mem_singleton] at hf
      exact hf.imp (fun h => heq ▸ h) fun h => ⟨heq, h⟩
    · exact Or.inl hf
  have hext : s.Extends ⟨s.vertices.setIfInBounds i v, s.branches⟩ := by
    refine ⟨hsize.ge, fun j _ => hspot j, fun j _ hopen f hf n hn => ?_⟩
    rcases hmem j f hf with hf | ⟨-, rfl⟩
    · exact hopen f hf n hn
    · exact he.closes n hn
  refine ⟨⟨h.nonempty.trans_le hext.size_le, (congrArg Spot.state (hspot 0)).trans h.beginning,
    hext.isOpen 0 h.nonempty h.bottom, fun j hj => ?_, fun j hj f hf => ?_,
    fun b hb => (h.branches b hb).extends hext⟩, hext⟩
  · rw [hspot]
    exact h.isIn j (hsize ▸ hj)
  · rcases hmem j f hf with hf | ⟨rfl, rfl⟩
    · exact (h.links j (hsize ▸ hj) f hf).extends hext (hsize ▸ hj)
    · exact (he.extends hext hi).linkSound

/-- Links are added one after the other. -/
theorem sound_foldl {i : Nat} (add : Stack → Link → Stack) (es : List Link) (h : s.Sound good text)
    (hi : i < s.vertices.size) (hes : ∀ e ∈ es, s.CanLink good text i e)
    (hadd : ∀ s' : Stack, s'.Sound good text → i < s'.vertices.size → ∀ e ∈ es, s'.CanLink good text i e →
      (add s' e).Sound good text ∧ s'.Extends (add s' e) ∧ (add s' e).branches = s'.branches) :
    (es.foldl add s).Sound good text ∧ s.Extends (es.foldl add s) ∧ (es.foldl add s).branches = s.branches := by
  refine List.foldlRecOn (motive := fun s' : Stack => s'.Sound good text ∧ s.Extends s' ∧ s'.branches = s.branches)
    _ _ ⟨h, .refl s, rfl⟩ fun s' ⟨hs', hext, hbranches⟩ e he => ?_
  obtain ⟨hsound, hext', hbranches'⟩ := hadd s' hs' (hi.trans_le hext.size_le) e he ((hes e he).extends hext hi)
  exact ⟨hsound, hext.trans hext', hbranches'.trans hbranches⟩

theorem Sound.addLink : ∀ (n : Nat) {s : Stack}, s.Sound good text → ∀ {i : Nat} {e : Link}, i < s.vertices.size →
    s.CanLink good text i e → (Stack.addLink n s i e).Sound good text ∧ s.Extends (Stack.addLink n s i e) ∧
      (Stack.addLink n s i e).branches = s.branches
  | 0, s, h, _, _, _, _ => by
    rw [Stack.addLink]
    exact ⟨h, .refl s, rfl⟩
  | n + 1, s, h, i, e, hi, he => by
    rw [Stack.addLink]
    dsimp only
    split
    · exact ⟨h, .refl s, rfl⟩
    · split
      · rename_i o ho
        split
        · exact ⟨h, .refl s, rfl⟩
        · rename_i hne
          have hlink := h.links i hi o (List.mem_of_find?_eq_some ho)
          have hsame := List.find?_some ho
          simp only [Bool.and_eq_true, Bool.or_eq_true, decide_eq_true_eq] at hsame
          have hspot := h.spot_eq hlink.lt he.lt (hsame.2.resolve_left hne)
          exact sound_foldl _ _ h hlink.lt (fun f hf => h.canLink he.lt he.isOpen hspot hf)
            fun s' hs' hlt f _ hf => Sound.addLink n hs' hlt hf
      · split
        · exact ⟨h, .refl s, rfl⟩
        · obtain ⟨hsound, hext⟩ := h.link hi he (v := { s.vertex i with
            links := (s.vertex i).links ++ [e]
            weight := max (s.vertex i).weight ((s.vertex e.target).weight + (e.node?.map (·.weight)).getD 0) })
            rfl rfl rfl
          exact ⟨hsound, hext, rfl⟩

theorem canJoin_iff {v w : Nat} (h : s.canJoin v w = true) :
    s.IsLive v ∧ s.IsLive w ∧ sameSituation (s.top v) (s.top w) = true := by
  unfold canJoin at h
  simp only [Bool.and_eq_true, decide_eq_true_eq] at h
  exact ⟨isLive_of_isActive h.1.1.1, isLive_of_isActive h.1.1.2, h.1.2⟩

theorem Sound.join (h : s.Sound good text) {v w : Nat} (hjoin : s.canJoin v w = true) :
    (s.join v w).Sound good text ∧ s.Extends (s.join v w) ∧ (s.join v w).size = (s.remove w).size ∧ ∀ j,
      ((s.join v w).branch j).vertex = (if j < w then s.branch j else s.branch (j + 1)).vertex ∧
      ((s.join v w).branch j).status = (if j < w then s.branch j else s.branch (j + 1)).status := by
  obtain ⟨hv, hw, hsame⟩ := canJoin_iff hjoin
  have hvBranch := h.branch v
  have hwBranch := h.branch w
  have hspot := h.spot_eq hvBranch.lt hwBranch.lt hsame
  unfold Stack.join
  dsimp only
  obtain ⟨hsound, hext, hbranches⟩ := sound_foldl
    (fun t e => Stack.addLink t.vertices.size t (s.branch v).vertex e) (s.top w).links h hvBranch.lt
    (fun e he => h.canLink hwBranch.lt (h.isOpen hw) hspot he)
    fun s' hs' hlt e _ he => Sound.addLink _ hs' hlt he
  generalize (s.top w).links.foldl _ s = joined at hsound hext hbranches
  have hbranch : ∀ j, joined.branch j = s.branch j := by
    intro j
    unfold Stack.branch
    rw [hbranches]
  have hvJoined := hsound.branch v
  generalize (if (joined.vertex (s.branch v).vertex).state = Automaton.skipping
    then (joined.vertex (s.branch v).vertex).weight else (joined.branch v).base) = base
  refine ⟨Sound.remove (hsound.setBranch v (b := { joined.branch v with base := base })
    ⟨hvJoined.lt, hvJoined.isOpen, hvJoined.waiting⟩) w, ?_, ?_, fun j => ?_⟩
  · exact hext.trans (extends_withBranches joined _)
  · have hsize : joined.size = s.size := congrArg List.length hbranches
    rw [size_remove, size_remove, size_setBranch, hsize]
  · rw [branch_remove]
    have hset : ∀ j, ((joined.setBranch v { joined.branch v with base := base }).branch j).vertex =
        (s.branch j).vertex ∧ ((joined.setBranch v { joined.branch v with base := base }).branch j).status =
        (s.branch j).status := by
      intro j
      rw [branch_setBranch, ← hbranch j]
      split
      · rename_i heq
        rw [heq.1]
        exact ⟨rfl, rfl⟩
      · exact ⟨rfl, rfl⟩
    split <;> exact hset _

theorem keeps_join (h : s.Sound good text) {v w : Nat} (hjoin : s.canJoin v w = true)
    (hw : ∀ j, w < j → s.IsLive j) : s.Keeps (s.join v w) := by
  intro j hj
  obtain ⟨-, -, -, hbranch⟩ := h.join hjoin
  have hstatus := (hbranch j).2
  have hlive : (if j < w then s.branch j else s.branch (j + 1)).status = .active := by
    split
    · exact hj
    · exact hw (j + 1) (by omega)
  exact hstatus.trans hlive

theorem canJoin_of_partner? {u w : Nat} {vs : List Nat} (h : s.partner? w vs = some u) :
    s.canJoin u w = true ∧ u ∈ vs :=
  ⟨by simpa using List.find?_some h, List.mem_of_find?_eq_some h⟩

end Stack

end LuaAtlas.Syntax
