import SurferCxxrtl.Container.System

namespace SurferCxxrtl

section EraseDups

variable {α : Type} [DecidableEq α]

private theorem eraseDups_loop_concat (a : α) (l bs : List α) :
    List.eraseDups.loop l (bs++[a])=a::List.eraseDups.loop (l.filter (·≠a)) bs := by
  induction l generalizing bs with
  | nil => simp [List.eraseDups.loop]
  | cons y l ih =>
    by_cases hy : y=a
    · subst hy
      simp [List.eraseDups.loop,ih]
    · by_cases hb : y∈bs
      · simp [List.eraseDups.loop,hy,hb,ih]
      · simpa [List.eraseDups.loop,hy,hb] using ih (y::bs)

theorem eraseDups_cons (a : α) (l : List α) :
    (a::l).eraseDups=a::(l.filter (·≠a)).eraseDups := by
  simpa [List.eraseDups,List.eraseDups.loop] using eraseDups_loop_concat a l []

end EraseDups

theorem getElem?_concat_eq_some {α : Type} (l : List α) (v w : α) (i : Nat) :
    (l++[v])[i]?=some w ↔ l[i]?=some w ∨ (i=l.length ∧ v=w) := by
  rcases lt_trichotomy i l.length with hi | rfl | hi
  · simp [List.getElem?_append_left hi,hi.ne]
  · simp [List.getElem?_concat_length]
  · have hl : l[i]?=none := List.getElem?_eq_none hi.le
    have hr : [v][i-l.length]?=none := List.getElem?_eq_none (by simp; omega)
    simp [List.getElem?_append_right hi.le,hl,hr,hi.ne']

/-- signal_index_map is the inverse of loaded_signals: it sends each loaded variable to its
position and nothing else to anything. -/
def IndexInverse (d : CxxrtlData) : Prop :=
  ∀ v i,d.signalIndexMap.lookup v=some i ↔ d.loadedSignals[i]?=some v

namespace IndexInverse

variable {d : CxxrtlData}

theorem mem_iff (h : IndexInverse d) (v : VariableRef) :
    v∈d.signalIndexMap ↔ v∈d.loadedSignals := by
  rw [← AList.lookup_isSome,Option.isSome_iff_exists,List.mem_iff_getElem?]
  exact exists_congr fun i => h v i

theorem nodup (h : IndexInverse d) : d.loadedSignals.Nodup := by
  rw [List.nodup_iff_getElem?_ne_getElem?]
  intro i j hij hj he
  have hv : d.loadedSignals[j]?=some d.loadedSignals[j] := List.getElem?_eq_getElem hj
  have hi := (h _ i).2 (he.trans hv)
  rw [(h _ j).2 hv,Option.some.injEq] at hi
  omega

end IndexInverse

open CxxrtlContainer in
theorem loadVariable_spec {d : CxxrtlData} (h : IndexInverse d) (v : VariableRef) :
    IndexInverse (loadVariable d v) ∧
      (loadVariable d v).loadedSignals=d.loadedSignals++if v∈d.loadedSignals then [] else [v] := by
  unfold loadVariable
  by_cases hv : v∈d.loadedSignals
  · simp [hv,h.mem_iff v,h]
  · have hm : v∉d.signalIndexMap := (h.mem_iff v).not.2 hv
    refine ⟨fun w i => ?_,by simp [hm,hv]⟩
    simp only [hm,not_false_eq_true,if_true,getElem?_concat_eq_some]
    by_cases hw : w=v
    · subst hw
      have : d.loadedSignals[i]?≠some w := fun e => hv (List.mem_iff_getElem?.2 ⟨i,e⟩)
      simp [this,eq_comm]
    · simp [AList.lookup_insert_ne hw,h w i,Ne.symm hw]

open CxxrtlContainer in
/-- The loop of load_variables keeps the inverse map and appends, in input order, the
variables neither loaded before nor earlier in the input. -/
theorem loadVariables_spec {d : CxxrtlData} (h : IndexInverse d) (vars : List VariableRef) :
    IndexInverse (vars.foldl loadVariable d) ∧
      (vars.foldl loadVariable d).loadedSignals=
        d.loadedSignals++(vars.filter (·∉d.loadedSignals)).eraseDups := by
  induction vars generalizing d with
  | nil => exact ⟨h,by simp [List.eraseDups,List.eraseDups.loop]⟩
  | cons v vs ih =>
    obtain ⟨h1,e1⟩ := loadVariable_spec h v
    obtain ⟨h2,e2⟩ := ih h1
    refine ⟨h2,?_⟩
    rw [List.foldl_cons,e2,e1]
    by_cases hv : v∈d.loadedSignals
    · simp [hv]
    · rw [List.filter_cons_of_pos (by simpa using hv),eraseDups_cons,List.filter_filter]
      simp only [hv,if_false,List.append_assoc,List.singleton_append]
      congr 3
      exact List.filter_congr fun w _ => by simp [and_comm]

theorem Callback.run_loadedSignals (cb : Callback) (r : CommandResponse) (d : CxxrtlData) :
    (cb.run r d).loadedSignals=d.loadedSignals ∧ (cb.run r d).signalIndexMap=d.signalIndexMap := by
  unfold Callback.run
  split <;> simp [CxxrtlData.onSimulationStatusUpdate,CxxrtlData.invalidateQueryResult]

/-- Only load_variables writes loaded_signals and signal_index_map. -/
theorem Section.signals_apply (sec : Section) (x : CxxrtlContainer) :
    (∃ vars,sec=.loadVariables vars) ∨
      (sec.apply x).data.loadedSignals=x.data.loadedSignals ∧
        (sec.apply x).data.signalIndexMap=x.data.signalIndexMap := by
  cases sec
  case loadVariables vars => exact .inl ⟨vars,rfl⟩
  case respond r =>
    refine .inr ?_
    simp only [Section.apply,CxxrtlContainer.respond]
    split
    · exact ⟨rfl,rfl⟩
    · exact Callback.run_loadedSignals _ _ _
  case sendRunSimulation | pause | skip => exact .inr ⟨rfl,rfl⟩
  all_goals exact .inr (by simp [Section.apply,CxxrtlContainer.fetchCell_eq,
    CxxrtlContainer.getScopes,CxxrtlContainer.fetchItemsInModule,
    CxxrtlContainer.rawSimulationStatus,CxxrtlContainer.fetchAllItems,
    CxxrtlContainer.queryCached])

theorem indexInverse_step (s : Sys) (a : Action) (h : IndexInverse s.data) :
    IndexInverse (s.step a).data := by
  rw [Sys.data,Sys.step_container]
  rcases (s.section a).signals_apply s.container with ⟨vars,he⟩ | ⟨e1,e2⟩
  · rw [he]
    exact (loadVariables_spec h vars).1
  · intro v i
    rw [e1,e2]
    exact h v i

theorem indexInverse_run (run : List Action) : IndexInverse (Sys.init.run run).data := by
  induction run using List.reverseRecOn with
  | nil => exact fun v i => by simp [Sys.init,Sys.data,CxxrtlContainer.new]
  | append_singleton run a ih =>
    rw [Sys.run_concat]
    exact indexInverse_step _ a ih

/-- Through every run, loaded_signals stays duplicate-free with signal_index_map its exact
inverse, and each load_variables call appends the new variables of its input in
first-occurrence order and sends the whole table as reference_items. -/
theorem load_variables_keeps_signal_table (run : List Action) (vars : List VariableRef) :
    let s := Sys.init.run run
    let x := s.container.loadVariables vars
    s.data.loadedSignals.Nodup ∧
    (∀ v,v∈s.data.signalIndexMap ↔ v∈s.data.loadedSignals) ∧
    (∀ v i,s.data.signalIndexMap.lookup v=some i ↔ s.data.loadedSignals[i]?=some v) ∧
    x.data.loadedSignals=s.data.loadedSignals++(vars.filter (·∉s.data.loadedSignals)).eraseDups ∧
    x.commandChannel.sent=s.sent++[(.referenceItems defaultReference
      (x.data.loadedSignals.map fun v => [v.cxxrtlRepr]),.loadVariables)] := by
  have h := indexInverse_run run
  exact ⟨h.nodup,h.mem_iff,h,(loadVariables_spec h vars).2,rfl⟩

end SurferCxxrtl
