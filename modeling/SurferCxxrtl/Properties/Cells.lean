import SurferCxxrtl.Container.System

namespace SurferCxxrtl

/-- What one step may do to one cache cell: keep it, send its request from Uncached and
wait, fill it, or, for query_result only, demote it. -/
inductive CellMove (X : Cell) (a : CachedData X.Payload) : CachedData X.Payload → Prop
  | keep : CellMove X a a
  | request : a.isUncached=true → CellMove X a (.waiting a.get)
  | fill (v : X.Payload) : CellMove X a (.filled v)
  | invalidate : X=.queryResult → CellMove X a a.makeUncached

namespace CellMove

variable {X : Cell} {a b : CachedData X.Payload}

/-- A move keeps the value a read returns, unless it fills the cell. -/
theorem get_eq (h : CellMove X a b) : b.get=b.filledValue.or a.get := by
  cases h <;> cases a <;> rfl

theorem not_uncached (h : CellMove X a b) (hX : X≠.queryResult) (ha : a.isUncached=false) :
    b.isUncached=false := by
  cases h <;> simp_all [CachedData.isUncached]

theorem of_set {Y : Cell} (d : CxxrtlData) {x : CachedData Y.Payload}
    (h : CellMove Y (Y.cache d) x) : CellMove X (X.cache d) (X.cache (Y.set d x)) := by
  by_cases e : X=Y
  · subst e
    simpa using h
  · rw [Cell.cache_set_ne d e]
    exact keep

end CellMove

@[simp] theorem Cell.cache_intervalQueryCache (X : Cell) (d : CxxrtlData) (q : QueryContainer) :
    X.cache {d with intervalQueryCache := q}=X.cache d := by
  cases X <;> rfl

theorem cellMove_onSimulationStatusUpdate (X : Cell) (d : CxxrtlData)
    (status : CxxrtlSimulationStatus) :
    CellMove X (X.cache d) (X.cache (d.onSimulationStatusUpdate status)) := by
  cases X
  case queryResult => exact .invalidate rfl
  case simulationStatus => exact CellMove.fill (X:=.simulationStatus) status
  all_goals exact .keep

theorem Callback.cellMove (cb : Callback) (r : CommandResponse) (d : CxxrtlData) (X : Cell) :
    CellMove X (X.cache d) (X.cache (cb.run r d)) := by
  unfold Callback.run
  split
  · exact CellMove.of_set d (.fill _)
  · exact CellMove.of_set d (.fill _)
  · exact CellMove.of_set d (.fill _)
  · simp only [Cell.cache_intervalQueryCache]
    exact CellMove.of_set d (.fill _)
  · exact CellMove.of_set d (.invalidate rfl)
  · exact cellMove_onSimulationStatusUpdate X d _
  · exact CellMove.of_set d (.fill _)
  · exact cellMove_onSimulationStatusUpdate X d _
  · exact .keep

theorem CxxrtlContainer.cellMove_fetchCell (c : CxxrtlContainer) (Y X : Cell)
    (command : CxxrtlCommand) (f : Callback) :
    CellMove X (X.cache c.data) (X.cache (c.fetchCell Y command f).2.data) := by
  rw [fetchCell_eq]
  refine CellMove.of_set c.data ?_
  split_ifs with h
  · exact .request h
  · exact .keep

@[simp] theorem Cell.cache_loadVariable (X : Cell) (d : CxxrtlData) (v : VariableRef) :
    X.cache (CxxrtlContainer.loadVariable d v)=X.cache d := by
  unfold CxxrtlContainer.loadVariable
  split_ifs <;> cases X <;> rfl

theorem Cell.cache_loadVariables (X : Cell) (d : CxxrtlData) (vars : List VariableRef) :
    X.cache (vars.foldl CxxrtlContainer.loadVariable d)=X.cache d := by
  induction vars generalizing d with
  | nil => rfl
  | cons v vs ih => simp [ih]

/-- Every section moves every cell by one of the four moves. -/
theorem Section.cellMove (sec : Section) (x : CxxrtlContainer) (X : Cell) :
    CellMove X (X.cache x.data) (X.cache (sec.apply x).data) := by
  cases sec
  case loadVariables vars =>
    simp only [Section.apply,CxxrtlContainer.loadVariables,Cell.cache_loadVariables]
    exact .keep
  case respond r =>
    simp only [Section.apply,CxxrtlContainer.respond]
    split
    · exact .keep
    · exact Callback.cellMove _ _ _ _
  case sendRunSimulation | pause | skip => exact .keep
  all_goals exact CxxrtlContainer.cellMove_fetchCell _ _ _ _ _

theorem Sys.cellMove (s : Sys) (a : Action) (X : Cell) :
    CellMove X (X.cache s.data) (X.cache (s.step a).data) := by
  simpa only [Sys.data,Sys.step_container] using (s.section a).cellMove s.container X

end SurferCxxrtl

namespace SurferCxxrtl

theorem CachedData.filledValue_or_get {T : Type} (c : CachedData T) : c.filledValue.or c.get=c.get := by
  cases c <;> rfl

/-- The value of the most recent fill of a cell along a sequence of states. -/
def lastFill (X : Cell) (states : List Sys) : Option X.Payload :=
  (states.filterMap fun s => (X.cache s.data).filledValue).getLast?

theorem lastFill_cons (X : Cell) (s : Sys) (l : List Sys) :
    lastFill X (s::l)=(lastFill X l).or (X.cache s.data).filledValue := by
  unfold lastFill
  rw [List.filterMap_cons]
  cases (X.cache s.data).filledValue with
  | none => simp [Option.or_none]
  | some v =>
    rw [List.getLast?_cons]
    cases (l.filterMap fun s => (X.cache s.data).filledValue).getLast? <;> rfl

theorem Sys.trace_cons_head (s : Sys) (as : List Action) : ∃ rest,s.trace as=s::rest := by
  cases as <;> exact ⟨_,rfl⟩

theorem Sys.get_run (s : Sys) (as : List Action) (X : Cell) :
    (X.cache (s.run as).data).get=(lastFill X (s.trace as)).or (X.cache s.data).get := by
  induction as generalizing s with
  | nil =>
    rw [run_nil,Sys.trace,lastFill_cons]
    simp [lastFill,CachedData.filledValue_or_get]
  | cons a as ih =>
    obtain ⟨rest,hr⟩ := (s.step a).trace_cons_head as
    rw [run_cons,ih,(s.cellMove a X).get_eq,Sys.trace,lastFill_cons,hr,lastFill_cons]
    cases lastFill X rest <;> cases (X.cache (s.step a).data).filledValue <;>
      simp [Option.or_assoc,CachedData.filledValue_or_get]

@[simp] theorem Cell.cache_init (X : Cell) : X.cache Sys.init.data=.empty := by
  cases X <;> rfl

/-- A read of any cell, by get or by fetch_if_needed, returns the value of its most recent
fill along the run, and none only when it was never filled. -/
theorem cell_read_is_last_fill (run : List Action) (X : Cell) :
    (X.cache (Sys.init.run run).data).get=lastFill X (Sys.init.trace run) ∧
    ∀ {σ : Type} (f : σ → σ) (t : σ),
      ((X.cache (Sys.init.run run).data).fetchIfNeeded f t).1=lastFill X (Sys.init.trace run) := by
  have h : (X.cache (Sys.init.run run).data).get=lastFill X (Sys.init.trace run) := by
    simpa [Option.or_none] using Sys.init.get_run run X
  exact ⟨h,fun f t => by rw [CachedData.fetchIfNeeded_eq,h]⟩

/-- A step sends nothing, or one command whose callback's cell, if it has one, was Uncached
and now waits. -/
def SendsFromUncached (x y : CxxrtlContainer) : Prop :=
  y.commandChannel.sent=x.commandChannel.sent ∨
  ∃ command f,y.commandChannel.sent=x.commandChannel.sent++[(command,f)] ∧
    ∀ X,f.cell=some X → (X.cache x.data).isUncached ∧ (X.cache y.data).isWaiting

theorem CxxrtlContainer.sendsFromUncached_fetchCell (c : CxxrtlContainer) (Y : Cell)
    (command : CxxrtlCommand) (f : Callback) (hf : f.cell=some Y) :
    SendsFromUncached c (c.fetchCell Y command f).2 := by
  rw [fetchCell_eq]
  split_ifs with h
  · refine .inr ⟨command,f,rfl,fun X hX => ?_⟩
    obtain rfl : X=Y := Option.some.inj (hX.symm.trans hf)
    simp [h,CachedData.isWaiting]
  · exact .inl rfl

theorem CxxrtlContainer.sendsFromUncached_runCommand (c : CxxrtlContainer) (d : CxxrtlData)
    (command : CxxrtlCommand) (f : Callback) (hf : f.cell=none) :
    SendsFromUncached c ⟨c.commandChannel.runCommand command f,d⟩ :=
  .inr ⟨command,f,rfl,fun X hX => by simp [hf] at hX⟩

theorem Section.sendsFromUncached (sec : Section) (x : CxxrtlContainer) :
    SendsFromUncached x (sec.apply x) := by
  cases sec
  case respond r =>
    refine .inl ?_
    simp only [Section.apply,CxxrtlContainer.respond]
    split <;> rfl
  case skip => exact .inl rfl
  case loadVariables | sendRunSimulation | pause =>
    exact CxxrtlContainer.sendsFromUncached_runCommand _ _ _ _ rfl
  all_goals exact CxxrtlContainer.sendsFromUncached_fetchCell _ _ _ _ rfl

/-- The commands sent so far whose callback refreshes cell X. -/
def refreshCount (X : Cell) (sent : List (CxxrtlCommand × Callback)) : Nat :=
  sent.countP fun e => e.2.cell=some X

theorem refreshCount_concat (X : Cell) (l : List (CxxrtlCommand × Callback))
    (command : CxxrtlCommand) (f : Callback) :
    refreshCount X (l++[(command,f)])=refreshCount X l+if f.cell=some X then 1 else 0 := by
  simp [refreshCount,List.countP_append,List.countP_cons]

/-- A cell other than query_result has at most one refresh sent, and none while Uncached. -/
def RefreshInv (X : Cell) (s : Sys) : Prop :=
  refreshCount X s.sent ≤ 1 ∧ ((X.cache s.data).isUncached=true → refreshCount X s.sent=0)

theorem Sys.sendsFromUncached (s : Sys) (a : Action) :
    SendsFromUncached s.container (s.step a).container := by
  rw [Sys.step_container]
  exact (s.section a).sendsFromUncached s.container

theorem refreshInv_step (X : Cell) (hX : X≠.queryResult) (s : Sys) (a : Action)
    (h : RefreshInv X s) : RefreshInv X (s.step a) := by
  have keepsUncached : (X.cache (s.step a).data).isUncached=true →
      (X.cache s.data).isUncached=true := fun hu => by
    by_contra hn
    simp [(s.cellMove a X).not_uncached hX (by simpa using hn)] at hu
  rcases s.sendsFromUncached a with he | ⟨command,f,he,hf⟩
  · exact ⟨by simpa [Sys.sent,he] using h.1,
      fun hu => by simpa [Sys.sent,he] using h.2 (keepsUncached hu)⟩
  · have hs : (s.step a).sent=s.sent++[(command,f)] := he
    unfold RefreshInv
    rw [hs,refreshCount_concat]
    by_cases hc : f.cell=some X
    · obtain ⟨hu,hw⟩ := hf X hc
      simp [hc,h.2 hu,Sys.data,CachedData.isUncached_of_isWaiting hw]
    · simpa [hc] using And.intro h.1 fun hu => h.2 (keepsUncached hu)

theorem refreshInv_run (X : Cell) (hX : X≠.queryResult) (run : List Action) :
    RefreshInv X (Sys.init.run run) := by
  induction run using List.reverseRecOn with
  | nil => exact ⟨by simp [refreshCount,Sys.sent,Sys.init,CxxrtlContainer.new],fun _ => rfl⟩
  | append_singleton run a ih =>
    rw [Sys.run_concat]
    exact refreshInv_step X hX _ a ih

/-- A refresh is sent only from an Uncached cell, which then waits; only query_result is ever
demoted; so every other cell is refreshed at most once per connection. -/
theorem refresh_sent_only_from_uncached (run : List Action) (a : Action) :
    let s := Sys.init.run run
    (∀ command f (X : Cell),(s.step a).sent=s.sent++[(command,f)] → f.cell=some X →
      (X.cache s.data).isUncached ∧ (X.cache (s.step a).data).isWaiting) ∧
    (∀ X : Cell,X≠.queryResult → (X.cache s.data).isUncached=false →
      (X.cache (s.step a).data).isUncached=false) ∧
    (∀ X : Cell,X≠.queryResult → refreshCount X s.sent ≤ 1) := by
  intro s
  refine ⟨fun command f X he hX => ?_,fun X hX hu => (s.cellMove a X).not_uncached hX hu,
    fun X hX => (refreshInv_run X hX run).1⟩
  rcases s.sendsFromUncached a with h | ⟨c',f',h,hf⟩ <;> simp only [Sys.sent] at he
  · simp [h] at he
  · rw [h,List.append_cancel_left_eq,List.singleton_inj,Prod.mk.injEq] at he
    obtain ⟨-,rfl⟩ := he
    exact hf X hX

end SurferCxxrtl
