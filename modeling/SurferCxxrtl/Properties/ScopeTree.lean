import SurferCxxrtl.Container.System

namespace SurferCxxrtl

open CxxrtlContainer

theorem isChildScope_iff (P C : ScopeRef) : isChildScope P C=true ↔ ∃ x,C.strs=P.strs++[x] := by
  simp only [isChildScope,List.take_length,Bool.and_eq_true,decide_eq_true_eq]
  constructor
  · rintro ⟨hl,ht⟩
    obtain ⟨x,hx⟩ := List.length_eq_one.1 (show (C.strs.drop P.strs.length).length=1 by simp; omega)
    exact ⟨x,by rw [← List.take_append_drop P.strs.length C.strs,ht,hx]⟩
  · rintro ⟨x,hx⟩
    simp [hx]

/-- Once scopes_cache is filled, child_scopes reads it and changes nothing. -/
theorem childScopes_of_filled {c : CxxrtlContainer} {m : HashMap ScopeRef CxxrtlScope}
    (h : c.data.scopesCache=.filled m) (P : ScopeRef) :
    c.childScopes P=(m.keys.filter (isChildScope P),c) := by
  obtain ⟨ch,d⟩ := c
  cases d
  simp_all [childScopes,scopes,getScopes,fetchCell_eq,Cell.cache,Cell.set,CachedData.isUncached]

/-- Repeatedly applying child_scopes below a scope, depth first, down to the given depth. -/
def walkScopes (c : CxxrtlContainer) : Nat → ScopeRef → List ScopeRef
  | 0,_ => []
  | n+1,P => (c.childScopes P).1.flatMap fun C => C::walkScopes c n C

section Walk

variable {c : CxxrtlContainer} {m : HashMap ScopeRef CxxrtlScope}
  (h : c.data.scopesCache=.filled m)

include h

theorem mem_childScopes (P C : ScopeRef) :
    C∈(c.childScopes P).1 ↔ C∈m ∧ ∃ x,C.strs=P.strs++[x] := by
  rw [childScopes_of_filled h,List.mem_filter,isChildScope_iff,AList.mem_keys]

/-- The walk below P reaches the scopes of the cache that extend P by one to n segments
through scopes of the cache only. -/
theorem mem_walkScopes (n : Nat) (P C : ScopeRef) :
    C∈walkScopes c n P ↔ C∈m ∧ P.strs <+: C.strs ∧ P.strs.length<C.strs.length ∧
      C.strs.length ≤ P.strs.length+n ∧
      ∀ k,P.strs.length<k → k<C.strs.length → (⟨C.strs.take k⟩ : ScopeRef)∈m := by
  induction n generalizing P with
  | zero => simp [walkScopes]; omega
  | succ n ih =>
    simp only [walkScopes,List.mem_flatMap,List.mem_cons,mem_childScopes h]
    constructor
    · rintro ⟨D,⟨hD,x,hx⟩,rfl | hC⟩
      · refine ⟨hD,⟨[x],hx.symm⟩,by simp [hx],by simp [hx],fun k h1 h2 => ?_⟩
        simp [hx] at h2; omega
      · obtain ⟨hm,hp,hl,hn,hk⟩ := (ih D).1 hC
        have hPD : P.strs <+: D.strs := ⟨[x],hx.symm⟩
        have hlen : D.strs.length=P.strs.length+1 := by simp [hx]
        refine ⟨hm,hPD.trans hp,by omega,by omega,fun k h1 h2 => ?_⟩
        rcases Nat.lt_or_ge (D.strs.length) k with hk' | hk'
        · exact hk k hk' h2
        · have : k=D.strs.length := by omega
          subst this
          rwa [← List.prefix_iff_eq_take.1 hp]
    · rintro ⟨hm,hp,hl,hn,hk⟩
      let D : ScopeRef := ⟨C.strs.take (P.strs.length+1)⟩
      have hD : D.strs=P.strs++[C.strs[P.strs.length]] := by
        simp only [D,List.take_succ,List.getElem?_eq_getElem hl,Option.toList_some]
        rw [← List.prefix_iff_eq_take.1 hp]
      by_cases he : C.strs.length=P.strs.length+1
      · refine ⟨C,⟨hm,_,by rw [← hD]; simp [D,← he]⟩,.inl rfl⟩
      · have hDm : D∈m := hk _ (by omega) (by omega)
        refine ⟨D,⟨hDm,_,hD⟩,.inr ((ih D).2 ⟨hm,List.take_prefix _ _,?_,?_,fun k h1 h2 => hk k ?_ h2⟩)⟩
        all_goals simp [D,List.length_take] at *; omega

theorem walkScopes_prefix {n : Nat} {D C : ScopeRef} (hC : C∈D::walkScopes c n D) :
    D.strs <+: C.strs := by
  rcases List.mem_cons.1 hC with rfl | hC
  · exact List.prefix_refl _
  · exact ((mem_walkScopes h n D C).1 hC).2.1

theorem walkScopes_nodup (n : Nat) (P : ScopeRef) : (walkScopes c n P).Nodup := by
  induction n generalizing P with
  | zero => exact List.nodup_nil
  | succ n ih =>
    rw [walkScopes,List.nodup_flatMap]
    refine ⟨fun D _ => List.nodup_cons.2 ⟨fun hD => ?_,ih D⟩,?_⟩
    · exact (lt_irrefl _) ((mem_walkScopes h n D D).1 hD).2.2.1
    · have hn : (c.childScopes P).1.Nodup := by
        rw [childScopes_of_filled h]
        exact m.keys_nodup.filter _
      refine hn.pairwise_of_forall_ne fun D₁ h₁ D₂ h₂ hne C hC₁ hC₂ => hne ?_
      obtain ⟨-,x₁,hx₁⟩ := (mem_childScopes h P D₁).1 h₁
      obtain ⟨-,x₂,hx₂⟩ := (mem_childScopes h P D₂).1 h₂
      have p₁ := walkScopes_prefix h hC₁
      have p₂ := walkScopes_prefix h hC₂
      rcases List.prefix_of_prefix_length_le p₁ p₂ (by simp [hx₁,hx₂]) with hp
      cases D₁; cases D₂
      simpa using hp.eq_of_length (by simp_all)

end Walk

theorem mem_scopesOfResponse {scopes : HashMap String CxxrtlScope} {C : ScopeRef}
    (hC : C∈scopesOfResponse scopes) : C.strs≠[] := by
  rw [scopesOfResponse,HashMap.mem_collect,List.map_map,List.mem_map] at hC
  obtain ⟨e,-,rfl⟩ := hC
  exact split_ne_nil _ _

/-- Once get_scopes has filled scopes_cache from a list_scopes response, child_scopes lists
each decoded one-segment extension of its parent once, and walking child_scopes down from
root_modules reaches, each once, exactly the decoded scopes whose non-empty proper prefixes
are all decoded. -/
theorem child_scopes_walk (scopes : HashMap String CxxrtlScope) (c : CxxrtlContainer)
    (h : c.data.scopesCache=.filled (scopesOfResponse scopes)) (n : Nat)
    (hn : ∀ C∈scopesOfResponse scopes,C.strs.length ≤ n) :
    (∀ P,(c.childScopes P).1.Nodup ∧
      ∀ C,C∈(c.childScopes P).1 ↔ C∈scopesOfResponse scopes ∧ ∃ x,C.strs=P.strs++[x]) ∧
    ((c.rootModules).1.flatMap (walkScopes c n)).Nodup ∧
    ∀ C,C∈(c.rootModules).1.flatMap (walkScopes c n) ↔ C∈scopesOfResponse scopes ∧
      ∀ k,0<k → k<C.strs.length → (⟨C.strs.take k⟩ : ScopeRef)∈scopesOfResponse scopes := by
  have hr : (c.rootModules).1=[⟨[]⟩] := rfl
  refine ⟨fun P => ⟨?_,mem_childScopes h P⟩,?_,fun C => ?_⟩
  · rw [childScopes_of_filled h]
    exact (AList.keys_nodup _).filter _
  · simpa [hr] using walkScopes_nodup h n ⟨[]⟩
  · rw [hr,List.flatMap_singleton,mem_walkScopes h]
    constructor
    · exact fun ⟨hm,_,_,_,hk⟩ => ⟨hm,fun k h1 => hk k h1⟩
    · exact fun ⟨hm,hk⟩ => ⟨hm,List.nil_prefix,List.length_pos.2 (mem_scopesOfResponse hm),
        by simpa using hn C hm,fun k h1 => hk k h1⟩

theorem child_scopes_walk_top_cpu :
    let R := ((∅ : HashMap String CxxrtlScope).insert "top" ⟨⟩).insert "top cpu" ⟨⟩
    let c := (Sys.init.run [.call .modules,.respond (.listScopes R)]).container
    c.data.scopesCache=.filled (scopesOfResponse R) ∧
    (∀ C∈scopesOfResponse R,C.strs.length ≤ 2) ∧
    (∀ P,(c.childScopes P).1.Nodup ∧
      ∀ C,C∈(c.childScopes P).1 ↔ C∈scopesOfResponse R ∧ ∃ x,C.strs=P.strs++[x]) ∧
    ((c.rootModules).1.flatMap (walkScopes c 2)).Nodup ∧
    ∀ C,C∈(c.rootModules).1.flatMap (walkScopes c 2) ↔ C∈scopesOfResponse R ∧
      ∀ k,0<k → k<C.strs.length → (⟨C.strs.take k⟩ : ScopeRef)∈scopesOfResponse R := by
  intro R c
  have h1 : c.data.scopesCache=.filled (scopesOfResponse R) := rfl
  have h2 : ∀ C∈scopesOfResponse R,C.strs.length ≤ 2 := fun C hC => by
    rw [AList.mem_keys] at hC
    revert C
    decide
  exact ⟨h1,h2,child_scopes_walk R c h1 2 h2⟩

example : ((Sys.init.run [.call .modules,.respond (.listScopes
    (((∅ : HashMap String CxxrtlScope).insert "top" ⟨⟩).insert "top cpu" ⟨⟩))]).container.childScopes
    ⟨["top"]⟩).1=[⟨["top","cpu"]⟩] := by
  decide

end SurferCxxrtl
