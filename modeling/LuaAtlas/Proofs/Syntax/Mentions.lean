/-
What a file mentions is written in it: the identifiers of every mention are identifiers of the file. Those of a text
are words, so the variable that a mention starts from can always be told from the dotted name.
-/
import LuaAtlas.Proofs.Syntax.Scoping
import LuaAtlas.Proofs.Syntax.Words

namespace LuaAtlas.Syntax

open LuaAtlas.Walk (alternate)

/-- The identifiers in what a value is given to. -/
def Owner.idents : Owner → List Ident
  | .introduced => []
  | .target t _ => exprIdents t

/-- The identifiers in what a value may be given to. -/
def ownerIdents (owner? : Option Owner) : List Ident := (owner?.map Owner.idents).getD []

/-- The identifiers in a mention. -/
def Mention.idents : Mention → List Ident
  | .used e _ | .assigned e _ | .function _ e _ => exprIdents e
  | .introduced x => [x]
  | .key _ owner => owner.idents
  | .argument .. => []

/-- All identifiers in the mentions `ms` are among `xs`. -/
def Within (xs : List Ident) (ms : List Mention) : Prop := ∀ m ∈ ms, m.idents ⊆ xs

namespace Within

variable {xs ys : List Ident} {ms ns : List Mention}

theorem nil : Within xs [] := fun _ h => by cases h

theorem one {m : Mention} (h : m.idents ⊆ xs) : Within xs [m] := List.forall_mem_singleton.2 h

theorem append (h : Within xs ms) (h' : Within xs ns) : Within xs (ms ++ ns) := List.forall_mem_append.2 ⟨h, h'⟩

theorem mono (h : Within xs ms) (hxs : xs ⊆ ys) : Within ys ms :=
  fun m hm => List.Subset.trans (h m hm) hxs

theorem left (h : Within xs ms) : Within (xs ++ ys) ms := h.mono (List.subset_append_left xs ys)

theorem right (h : Within ys ms) : Within (xs ++ ys) ms := h.mono (List.subset_append_right xs ys)

theorem both (h : Within xs ms) (h' : Within ys ns) : Within (xs ++ ys) (ms ++ ns) := h.left.append h'.right

theorem mono_append {os zs : List Ident} (h : Within (os ++ xs) ms) (hos : os ⊆ zs) (hxs : xs ⊆ ys) :
    Within (zs ++ ys) ms :=
  h.mono (List.append_subset.2 ⟨List.Subset.trans hos (List.subset_append_left _ _),
    List.Subset.trans hxs (List.subset_append_right _ _)⟩)

/-- What two lists of mentions share may stand once in front. -/
theorem shared {os : List Ident} (h : Within (os ++ xs) ms) (h' : Within (os ++ ys) ns) :
    Within (os ++ (xs ++ ys)) (ms ++ ns) := by
  have hos := List.Subset.refl os
  exact (h.mono_append hos (List.subset_append_left _ _)).append (h'.mono_append hos (List.subset_append_right _ _))

theorem introduced (zs : List Ident) : Within zs (zs.map .introduced) := by
  intro m hm
  obtain ⟨x, hx, rfl⟩ := List.mem_map.1 hm
  exact List.cons_subset.2 ⟨hx, List.nil_subset _⟩

theorem ofIf {p : Prop} [Decidable p] {m : Mention} (h : m.idents ⊆ xs) : Within xs (if p then [m] else []) := by
  split
  · exact one h
  · exact nil

theorem alternate {mss nss : List (List Mention)} (h : Within xs mss.flatten) (h' : Within xs nss.flatten) :
    Within xs (alternate mss nss) := fun m hm => (Walk.mem_alternate.1 hm).elim (h m) (h' m)

end Within

theorem targetOwners_subset (σ : Scope) (ts : List Expr) :
    (ts.map (targetOwner? σ)).flatMap ownerIdents ⊆ exprsIdents ts := by
  intro x hx
  obtain ⟨o, ho, hx⟩ := List.mem_flatMap.1 hx
  obtain ⟨t, ht, rfl⟩ := List.mem_map.1 ho
  refine mem_exprsIdents.2 ⟨t, ht, ?_⟩
  unfold targetOwner? at hx
  cases hname : t.dottedName? with
  | none => simp [hname, ownerIdents] at hx
  | some name => simpa [hname, ownerIdents, Owner.idents] using hx

theorem argumentMentions_within {xs : List Ident} (callee : Expr) (args : List Expr) :
    Within xs (argumentMentions callee args) := by
  unfold argumentMentions
  split
  · exact .one (List.nil_subset _)
  · exact .nil

mutual

theorem exprMentions_within (σ : Scope) (owner? : Option Owner) : ∀ e,
    Within (ownerIdents owner? ++ exprIdents e) (exprMentions σ owner? e)
  | .ident id => Within.right (.one (List.Subset.refl _))
  | .member base accessor field range => by
    rw [exprMentions]
    refine Within.right (.append ?_ (.ofIf (List.Subset.refl _)))
    exact (exprMentions_within σ none base).left
  | .index base key range => by
    rw [exprMentions]
    refine Within.right (.append (exprMentions_within σ none base).left ?_)
    split
    · exact .one (List.Subset.refl _)
    · exact (exprMentions_within σ none key).right
  | .call callee args range => by
    rw [exprMentions]
    refine Within.right (.append ?_ (exprsMentions_within σ args).right)
    exact (exprMentions_within σ none callee).left.append (argumentMentions_within callee args)
  | .func f => (functionMentions_within σ [] f).right
  | .table entries range => entriesMentions_within σ owner? entries
  | .binary left right range =>
    Within.right ((exprMentions_within σ none left).both (exprMentions_within σ none right))
  | .unary operand range => Within.right (exprMentions_within σ none operand)
  | .paren inner range => exprMentions_within σ owner? inner
  | .string .. | .number .. | .literal _ | .vararg _ => .nil

theorem exprsMentions_within (σ : Scope) : ∀ es, Within (exprsIdents es) (exprsMentions σ es)
  | [] => .nil
  | e :: es => Within.both (exprMentions_within σ none e) (exprsMentions_within σ es)

theorem valuesMentions_within (σ : Scope) : ∀ (owners : List (Option Owner)) (vs : List Expr),
    Within (owners.flatMap ownerIdents ++ exprsIdents vs) (valuesMentions σ owners vs).flatten
  | _, [] => .nil
  | [], v :: vs => by
    have hrest : Within (exprsIdents vs) (valuesMentions σ [] vs).flatten := valuesMentions_within σ [] vs
    have hall : Within (exprsIdents (v :: vs)) (valuesMentions σ [] (v :: vs)).flatten :=
      Within.both (exprMentions_within σ none v) hrest
    exact hall
  | owner? :: owners, v :: vs => by
    have howner : ownerIdents owner? ⊆ (owner? :: owners).flatMap ownerIdents := by simp
    have howners : owners.flatMap ownerIdents ⊆ (owner? :: owners).flatMap ownerIdents := by simp
    have hv := (exprMentions_within σ owner? v).mono_append howner (List.subset_append_left _ (exprsIdents vs))
    exact hv.append ((valuesMentions_within σ owners vs).mono_append howners (List.subset_append_right _ _))

theorem entriesMentions_within (σ : Scope) (owner? : Option Owner) : ∀ es,
    Within (ownerIdents owner? ++ entriesIdents es) (entriesMentions σ owner? es)
  | [] => .nil
  | e :: es => (entryMentions_within σ owner? e).shared (entriesMentions_within σ owner? es)

theorem entryMentions_within (σ : Scope) (owner? : Option Owner) : ∀ e,
    Within (ownerIdents owner? ++ entryIdents e) (entryMentions σ owner? e)
  | .named key value => by
    rw [entryMentions]
    have hvalue := exprMentions_within σ owner? value
    refine .append ?_ (hvalue.mono_append (List.Subset.refl _) (List.subset_cons_self _ _))
    cases owner? with
    | none => exact .nil
    | some owner => exact Within.left (.one (List.Subset.refl _))
  | .indexed key value => by
    unfold entryMentions
    split
    · rename_i owner suffix _
      refine .append (Within.left (.one (m := .key _ owner) (List.Subset.refl _))) ?_
      exact (exprMentions_within σ (some owner) value).mono_append (List.Subset.refl _) (List.subset_append_right _ _)
    · exact Within.right (Within.both (exprMentions_within σ none key) (exprMentions_within σ none value))
  | .positional value => Within.right (exprMentions_within σ none value)

theorem functionMentions_within (σ : Scope) (implicit : List Ident) :
    ∀ f, Within (functionIdents f) (functionMentions σ implicit f)
  | .mk params _ body _ => (Within.introduced params).both (blockMentions_within _ body)

theorem blockMentions_within (σ : Scope) : ∀ b, Within (blockIdents b) (blockMentions σ b)
  | .mk stmts _ => stmtsMentions_within σ stmts

theorem stmtsMentions_within (σ : Scope) : ∀ ss, Within (stmtsIdents ss) (stmtsMentions σ ss)
  | [] => .nil
  | s :: ss => (stmtMentions_within σ s).both (stmtsMentions_within _ ss)

theorem clausesMentions_within (σ : Scope) : ∀ cs, Within (clausesIdents cs) (clausesMentions σ cs)
  | [] => .nil
  | .mk (some condition) body :: cs =>
    (Within.both (exprMentions_within σ none condition) (blockMentions_within σ body)).both
      (clausesMentions_within σ cs)
  | .mk none body :: cs => (blockMentions_within σ body).both (clausesMentions_within σ cs)

theorem stmtMentions_within (σ : Scope) : ∀ s, Within (stmtIdents s) (stmtMentions σ s)
  | .localVars names values _ => by
    rw [stmtMentions]
    refine (Within.introduced names).both ((valuesMentions_within σ _ values).mono ?_)
    have howners : (names.map fun _ => some Owner.introduced).flatMap ownerIdents = [] := by
      simp [ownerIdents, Owner.idents]
    rw [howners]
    exact List.Subset.refl _
  | .assign targets values _ => by
    rw [stmtMentions]
    have hvalues := (valuesMentions_within σ (targets.map (targetOwner? σ)) values).mono_append
      (targetOwners_subset σ targets) (List.Subset.refl _)
    exact .alternate (targetsMentions_within σ targets).left hvalues
  | .funcDecl isLocal name f range => by
    rw [stmtMentions]
    exact (Within.append (exprMentions_within _ none name) (.ofIf (List.Subset.refl _))).both
      (functionMentions_within _ (implicitSelf name) f)
  | .call callee args range => by
    rw [stmtMentions]
    refine .append ?_ (exprsMentions_within σ args).right
    exact (exprMentions_within σ none callee).left.append (argumentMentions_within callee args)
  | .ret values _ => exprsMentions_within σ values
  | .branch clauses _ => clausesMentions_within σ clauses
  | .whileLoop condition body _ => Within.both (exprMentions_within σ none condition) (blockMentions_within σ body)
  | .repeatLoop body condition _ => (blockMentions_within σ body).both (exprMentions_within _ none condition)
  | .doBlock body _ => blockMentions_within σ body
  | .numericFor x start limit (some step) body _ => by
    have hbounds := (Within.both (exprMentions_within σ none start) (exprMentions_within σ none limit)).both
      (exprMentions_within σ none step)
    have hbody := (Within.introduced [x]).both (blockMentions_within (σ.bind [x]) body)
    refine (hbounds.both hbody).mono fun y hy => ?_
    simp only [stmtIdents, List.mem_append, List.mem_cons] at hy ⊢
    tauto
  | .numericFor x start limit none body _ => by
    have hbounds := Within.both (exprMentions_within σ none start) (exprMentions_within σ none limit)
    have hbody := (Within.introduced [x]).both (blockMentions_within (σ.bind [x]) body)
    refine (hbounds.both hbody).mono fun y hy => ?_
    simp only [stmtIdents, List.mem_append, List.mem_cons] at hy ⊢
    tauto
  | .genericFor xs iterators body _ => by
    have hhead := (exprsMentions_within σ iterators).right.append (Within.introduced xs).left
    exact hhead.both (blockMentions_within (σ.bind xs) body)

theorem targetsMentions_within (σ : Scope) : ∀ ts, Within (exprsIdents ts) (targetsMentions σ ts).flatten
  | [] => .nil
  | t :: ts =>
    (Within.append (exprMentions_within σ none t) (.ofIf (List.Subset.refl _))).both (targetsMentions_within σ ts)

end

/-! ## Variables -/

theorem mem_exprIdents_of_root? : ∀ {e : Expr} {x : Ident}, e.root? = some x → x ∈ exprIdents e
  | .ident id, x, h => by
    cases h
    exact List.mem_singleton_self _
  | .member base .., x, h | .index base .., x, h => List.mem_append_left _ (mem_exprIdents_of_root? (e := base) h)
  | .paren inner range, x, h => mem_exprIdents_of_root? (e := inner) h
  | .call .., _, h | .func _, _, h | .table .., _, h | .binary .., _, h | .unary .., _, h
  | .string .., _, h | .number .., _, h | .literal _, _, h | .vararg _, _, h => by cases h

/-- The identifiers of what a text mentions are plain. -/
theorem isPlain_of_mem_mentions {text : String} {m : Mention} (hm : m ∈ (parse text).file.mentions) {x : Ident}
    (hx : x ∈ m.idents) : Name.IsPlain x.name :=
  isPlain_of_mem_idents text x (blockMentions_within .outermost _ m hm hx)

end LuaAtlas.Syntax
