/-
More fuel. The fuel of a search only says how deep it may go: a search that has ended ends in the same way with
more.
-/
import LuaAtlas.Proofs.Inference.Chain

namespace LuaAtlas.Inference

variable {x : Index} {purpose : Purpose}

/-- Whenever `m` ends, `m'` ends in the same way. -/
def Extends {α : Type} (m m' : Follow α) : Prop := ∀ t r, m t = some r → m' t = some r

theorem Extends.refl {α : Type} (m : Follow α) : Extends m m := fun _ _ h => h

theorem Extends.bind {α β : Type} {m m' : Follow α} {f f' : α → Follow β} (hm : Extends m m')
    (hf : ∀ a, Extends (f a) (f' a)) : Extends (m >>= f) (m' >>= f') := by
  rintro t ⟨b, v⟩ h
  obtain ⟨a, u, ha, hb⟩ := bind_eq_some h
  rw [bind_of_some (hm t _ ha)]
  exact hf a u _ hb

theorem Extends.firstAnswer {α : Type} {f f' : α → Follow (List Symbol)} (hf : ∀ a, Extends (f a) (f' a)) :
    ∀ as : List α, Extends (firstAnswer f as) (firstAnswer f' as)
  | [] => .refl _
  | a :: as => by
    refine .bind (hf a) fun found => ?_
    cases found with
    | nil => exact Extends.firstAnswer hf as
    | cons s ss => exact .refl _

section

variable {resolve resolve' : Place → Follow (List Symbol)} (hres : ∀ q, Extends (resolve q) (resolve' q))
include hres

theorem Extends.merged (q : Place) : Extends (merged x purpose resolve q) (merged x purpose resolve' q) := by
  unfold Inference.merged
  dsimp only
  split
  · exact hres q
  · exact .refl _

theorem Extends.substitutes (s : Symbol) :
    Extends (substitutes x purpose resolve s) (substitutes x purpose resolve' s) := by
  unfold Inference.substitutes
  split
  · exact .bind (hres _) fun fs => .refl _
  · exact .refl _

theorem Extends.followCut (uri : Uri) (cut : String × String) :
    Extends (followCut x purpose resolve uri cut) (followCut x purpose resolve' uri cut) := by
  refine .bind (.refl _) fun ss => .firstAnswer (fun s => ?_) ss
  exact .bind (.substitutes hres s) fun places => .firstAnswer (fun q => .merged hres _) places

end

/-- A search that has ended ends in the same way with more fuel. -/
theorem extends_resolvePath : ∀ {fuel fuel' : Nat}, fuel ≤ fuel' → ∀ p,
    Extends (resolvePath x purpose fuel p) (resolvePath x purpose fuel' p)
  | 0, _, _, p => by
    intro t r h
    cases h
  | fuel + 1, 0, hle, _ => absurd hle (Nat.not_succ_le_zero fuel)
  | fuel + 1, fuel' + 1, hle, p => by
    intro t r h
    rw [resolvePath_succ] at h ⊢
    split at h
    · rename_i hmem
      rwa [if_pos hmem]
    · rename_i hmem
      rw [if_neg hmem]
      have hbelow : ∀ q, Extends (resolvePath x purpose fuel q) (resolvePath x purpose fuel' q) :=
        extends_resolvePath (Nat.le_of_succ_le_succ hle)
      exact Extends.firstAnswer (Extends.followCut hbelow p.uri) (cuts p.path) _ r h

end LuaAtlas.Inference
