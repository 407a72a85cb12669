/-
What is kept of a text with syntax errors. A reading goes forward in the text even where it has faults. So the
statements that can be recovered from it stand there one behind the other, and each of them says what the text says.
-/
import LuaAtlas.Proofs.Syntax.Fidelity

namespace LuaAtlas.Syntax

variable {good : Token → Prop} {isValue : String → String → Prop} {text : List Char}

namespace Node

mutual

/-- No node goes back in the text. -/
theorem Stands.le_of_laid : ∀ {n : Node}, n.Stands good text → ∀ {i j : Nat}, Laid i n.intact j → i ≤ j
  | leaf t e, h, i, j, hlaid => by
    rw [intact] at hlaid
    split at hlaid
    · rename_i hpenalty
      cases h with
      | leaf _ hfits =>
        rcases hfits with hsupplied | hfits
        · simp [penalty, hsupplied, Penalty.fault] at hpenalty
        · exact hlaid.1.trans (hfits.le.trans hlaid.2)
    · exact hlaid
  | tree head cs e d, h, i, j, hlaid => by
    cases h with
    | tree hfits hcs =>
      rw [intact] at hlaid
      split at hlaid
      · rename_i hpenalty
        exact hlaid.1.trans ((hfits hpenalty).le.trans hlaid.2)
      · exact le_of_laid_allIntact hcs hlaid

theorem le_of_laid_allIntact : ∀ {ns : List Node}, (∀ n ∈ ns, n.Stands good text) → ∀ {i j : Nat},
    Laid i (allIntact ns) j → i ≤ j
  | [], _, _, _, hlaid => hlaid
  | n :: ns, h, i, j, hlaid => by
    obtain ⟨hn, hns⟩ := List.forall_mem_cons.1 h
    rw [allIntact] at hlaid
    obtain ⟨k, hfirst, hrest⟩ := hlaid.split
    exact (hn.le_of_laid hfirst).trans (le_of_laid_allIntact hns hrest)

end

/-- What is intact in the parts of a node lies where the node does. -/
theorem Stands.laid_children {head : Head} {cs : List Node} {isExtra : Bool} {d : Digest} {i j : Nat}
    (h : (Node.tree head cs isExtra d).Stands good text) (hlaid : Laid i (Node.tree head cs isExtra d).intact j) :
    Laid i (allIntact cs) j := by
  rw [intact] at hlaid
  split at hlaid
  · rename_i hpenalty
    cases h with
    | tree hfits _ =>
      cases hfits hpenalty with
      | tree _ hcs hparts _ => exact ((laid_allIntact hcs hparts).of_le hlaid.1).mono hlaid.2
  · exact hlaid

end Node

/-! ## Statements one behind the other -/

/-- Statements that say what the text says and follow each other there, from the place with number `i` on. -/
inductive AreLaid (isValue : String → String → Prop) (text : List Char) : Nat → List Stmt → Prop
  | nil {i : Nat} : AreLaid isValue text i []
  | cons {i : Nat} {p q : Place} {s : Stmt} {ss : List Stmt} : p.IsIn text → q.IsIn text → i ≤ p.index →
      Stmt.IsFaithful isValue text (p.rangeTo q) s → AreLaid isValue text q.index ss → AreLaid isValue text i (s :: ss)

namespace AreLaid

variable {ss : List Stmt} {i i' : Nat} {q : Place}

theorem of_le (h : AreLaid isValue text i ss) (hle : i' ≤ i) : AreLaid isValue text i' ss := by
  cases h with
  | nil => exact .nil
  | cons hp hq hstart hs hss => exact .cons hp hq (hle.trans hstart) hs hss

theorem faithful (h : AreLaid isValue text i ss) : ∀ s ∈ ss, ∃ r, Stmt.IsFaithful isValue text r s := by
  induction h with
  | nil => exact List.forall_mem_nil _
  | cons _ _ _ hs _ ih => exact List.forall_mem_cons.2 ⟨⟨_, hs⟩, ih⟩

theorem start_le (h : AreLaid isValue text i ss) (hq : q.IsIn text) (hi : q.index ≤ i) :
    ∀ s ∈ ss, q.position ≤ s.range.start := by
  induction h generalizing q with
  | nil => exact List.forall_mem_nil _
  | cons hp hq' hstart hs _ ih =>
    have hle := (hq.position_le hp (hi.trans hstart)).trans hs.liesIn.start_le
    refine List.forall_mem_cons.2 ⟨hle, fun t ht => ?_⟩
    exact hle.trans (hs.liesIn.lt.le.trans (hs.liesIn.stop_le.trans (ih hq' le_rfl t ht)))

theorem ordered (h : AreLaid isValue text i ss) : Range.Ordered (ss.map (·.range)) := by
  induction h with
  | nil => exact .nil
  | cons _ hq _ hs hss ih =>
    refine List.pairwise_cons.2 ⟨fun r hr => ?_, ih⟩
    obtain ⟨t, ht, rfl⟩ := List.mem_map.1 hr
    have hafter := hs.liesIn.stop_le.trans (hss.start_le hq le_rfl t ht)
    exact ⟨hs.liesIn.lt.trans_le hafter, hafter⟩

end AreLaid

/-! ## Recovery -/

namespace Node

theorem stmt_faithful (hvalue : Reads isValue) {n : Node} (h : n.Fits text) {s : Stmt} (hs : n.meaning.stmt? = some s) :
    Stmt.IsFaithful isValue text n.range s := (meaning_faithful hvalue h).stmt hs

mutual

/-- What is kept of a node stands before what is kept of the nodes behind it. -/
theorem addKept_laid (hvalue : Reads isValue) : ∀ (n : Node), n.Stands good text → ∀ {i j : Nat} {rest : List Stmt},
    Laid i n.intact j → AreLaid isValue text j rest → AreLaid isValue text i (addKept rest n)
  | leaf t e, h, i, j, rest, hlaid, hrest => by
    rw [addKept]
    exact hrest.of_le (h.le_of_laid hlaid)
  | tree (.rule k) cs e d, h, i, j, rest, hlaid, hrest => by
    have hskipped := hrest.of_le (h.le_of_laid hlaid)
    rw [addKept]
    split
    · exact addAllKept_laid hvalue cs h.children (h.laid_children hlaid) hrest
    · split
      · rename_i hkept
        split
        · rename_i s hs
          split
          · have hpenalty : d.penalty = 0 := of_decide_eq_true (Bool.and_eq_true_iff.1 hkept).1
            rw [intact, if_pos hpenalty] at hlaid
            cases h with
            | tree hfits _ =>
              have hfits := hfits hpenalty
              obtain ⟨σ, -, hspans⟩ := hfits.spans
              exact .cons hspans.start_isIn hspans.stop_isIn hlaid.1 (stmt_faithful hvalue hfits hs) (hrest.of_le hlaid.2)
          · exact hskipped
        · exact hskipped
      · exact hskipped
  | tree .error cs e d, h, i, j, rest, hlaid, hrest => by
    rw [addKept]
    · exact addAllKept_laid hvalue cs h.children (h.laid_children hlaid) hrest
    · simp
  | tree .skipped cs e d, h, i, j, rest, hlaid, hrest => by
    rw [addKept]
    · exact addAllKept_laid hvalue cs h.children (h.laid_children hlaid) hrest
    · simp

theorem addAllKept_laid (hvalue : Reads isValue) : ∀ (ns : List Node), (∀ n ∈ ns, n.Stands good text) →
    ∀ {i j : Nat} {rest : List Stmt}, Laid i (allIntact ns) j → AreLaid isValue text j rest →
    AreLaid isValue text i (addAllKept rest ns)
  | [], _, _, _, rest, hlaid, hrest => by
    rw [addAllKept]
    exact hrest.of_le hlaid
  | n :: ns, h, i, j, rest, hlaid, hrest => by
    obtain ⟨hn, hns⟩ := List.forall_mem_cons.1 h
    rw [allIntact] at hlaid
    obtain ⟨k, hfirst, hlast⟩ := hlaid.split
    rw [addAllKept]
    exact addKept_laid hvalue n hn hfirst (addAllKept_laid hvalue ns hns hlast hrest)

end

theorem kept_laid (hvalue : Reads isValue) {source : String} {root : Node} (h : ofText source = some root) :
    ∃ i, AreLaid isValue source.toList i root.kept := by
  obtain ⟨i, j, hlaid⟩ := ofText_laid h
  exact ⟨i, addAllKept_laid hvalue _ (ofText_stands h).children hlaid .nil⟩

end Node

/-- The statements that a text is read as stand there in reading order and say what it says, with syntax errors or
without. -/
theorem stmts_faithful (hvalue : Node.Reads isValue) (source : String) :
    (∀ s ∈ (parse source).file.body.stmts, ∃ r, Stmt.IsFaithful isValue source.toList r s) ∧
      Range.Ordered ((parse source).file.body.stmts.map (·.range)) := by
  cases hdegraded : (parse source).isDegraded with
  | false =>
    obtain ⟨hstmts, hordered⟩ := (file_faithful hvalue hdegraded).body.stmts
    exact ⟨fun s hs => ⟨_, hstmts s hs⟩, hordered⟩
  | true =>
    unfold parse at hdegraded ⊢
    cases htree : Node.ofText source with
    | none => exact ⟨List.forall_mem_nil _, .nil⟩
    | some root =>
      rw [htree] at hdegraded
      dsimp only at hdegraded ⊢
      split
      · rename_i hpenalty
        rw [if_pos hpenalty] at hdegraded
        cases hdegraded
      · obtain ⟨i, hkept⟩ := Node.kept_laid hvalue htree
        exact ⟨hkept.faithful, hkept.ordered⟩

end LuaAtlas.Syntax
