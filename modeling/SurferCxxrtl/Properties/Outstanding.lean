import SurferCxxrtl.Properties.SimulationTime

namespace SurferCxxrtl

/-- Whether a response is the variant the command behind a callback answers with. -/
def Callback.expects : Callback → CommandResponse → Bool
  | .getScopes,.listScopes _ => true
  | .fetchAllItems,.listItems _ => true
  | .fetchItemsInModule _,.listItems _ => true
  | .queryVariable ..,.queryInterval _ => true
  | .loadVariables,.referenceItems => true
  | .rawSimulationStatus,.getSimulationStatus _ => true
  | .unpause,.runSimulation => true
  | .pause,.pauseSimulation _ => true
  | _,_ => false

theorem Callback.run_unexpected (cb : Callback) (r : CommandResponse) (d : CxxrtlData)
    (hcb : cb≠.unpause) (hr : cb.expects r=false) :
    cb.run r d=d ∨ cb.run r d=d.invalidateQueryResult := by
  cases cb
  case loadVariables => exact .inr rfl
  case unpause => exact absurd rfl hcb
  all_goals cases r <;> first | exact .inl rfl | cases hr

/-- unpause's callback skips the variant check that every other callback makes. On a response
of another variant every other callback returns through expect_response! with nothing changed,
or (load_variables', which checks nothing) only demotes query_result; a get_simulation_status
reply reporting a pause at 5 fs, delivered to unpause's callback, marks the simulation running
at time zero. -/
theorem unpause_callback_ignores_variant :
    (∀ (cb : Callback) r d,cb≠.unpause → cb.expects r=false →
      cb.run r d=d ∨ cb.run r d=d.invalidateQueryResult) ∧
    Callback.unpause.expects (.getSimulationStatus ⟨.paused,⟨5⟩⟩)=false ∧
    CxxrtlContainer.new.data.simulationStatus=.empty ∧
    (Callback.unpause.run (.getSimulationStatus ⟨.paused,⟨5⟩⟩)
      CxxrtlContainer.new.data).simulationStatus=.filled ⟨.running,.zero⟩ :=
  ⟨Callback.run_unexpected,by decide⟩

theorem Cell.cache_set_of_not_waiting (X Y : Cell) (d : CxxrtlData) {x : CachedData Y.Payload}
    (hx : x.isWaiting=false) :
    X.cache (Y.set d x)=X.cache d ∨ (X.cache (Y.set d x)).isWaiting=false := by
  by_cases e : X=Y
  · subst e
    exact .inr (by simpa using hx)
  · exact .inl (Cell.cache_set_ne d e x)

/-- A callback never leaves a cell waiting that it changes. -/
theorem Callback.cache_run_eq_or_settled (f : Callback) (r : CommandResponse) (d : CxxrtlData) (X : Cell) :
    X.cache (f.run r d)=X.cache d ∨ (X.cache (f.run r d)).isWaiting=false := by
  unfold Callback.run
  split
  case h_4 => simpa only [Cell.cache_intervalQueryCache] using
    Cell.cache_set_of_not_waiting X _ d (CachedData.isWaiting_filled _)
  case h_5 => exact Cell.cache_set_of_not_waiting X _ d (CachedData.isWaiting_makeUncached _)
  case h_6 | h_8 =>
    rcases Cell.cache_set_of_not_waiting X _ _ (CachedData.isWaiting_makeUncached _) with h | h
    · rw [CxxrtlData.onSimulationStatusUpdate,CxxrtlData.invalidateQueryResult,h]
      exact Cell.cache_set_of_not_waiting X _ d (CachedData.isWaiting_filled _)
    · exact .inr h
  case h_9 => exact .inl rfl
  all_goals exact Cell.cache_set_of_not_waiting X _ d (CachedData.isWaiting_filled _)

/-- A callback that fills a cell changes nothing on a response of another variant. -/
theorem Callback.run_eq_self_of_unexpected (f : Callback) (r : CommandResponse) (d : CxxrtlData) {X : Cell}
    (hX : f.cell=some X) (hr : f.expects r=false) : f.run r d=d := by
  cases f <;> cases hX <;> cases r <;> first | rfl | cases hr

/-- Only query_result and simulation_status are written by callbacks other than their own. -/
theorem Callback.cache_run_of_ne (f : Callback) (r : CommandResponse) (d : CxxrtlData) {X : Cell}
    (hX : f.cell≠some X) (hq : X≠.queryResult) (hs : X≠.simulationStatus) :
    X.cache (f.run r d)=X.cache d := by
  unfold Callback.run
  split
  case h_4 => simpa only [Cell.cache_intervalQueryCache] using Cell.cache_set_ne d hq _
  all_goals simp_all [Callback.cell,CxxrtlData.onSimulationStatusUpdate,
    CxxrtlData.invalidateQueryResult,eq_comm]

/-- On the response it expects, a callback fills its own cell. -/
theorem Callback.isWaiting_run_of_expects (f : Callback) (r : CommandResponse) (d : CxxrtlData) {X : Cell}
    (hX : f.cell=some X) (hr : f.expects r=true) : (X.cache (f.run r d)).isWaiting=false := by
  cases f <;> cases hX <;> cases r <;> cases hr
  all_goals simp only [Callback.run,Cell.cache_intervalQueryCache]
  all_goals simp [CxxrtlData.onSimulationStatusUpdate,CxxrtlData.invalidateQueryResult]

/-- One transition seen from the command channel and the cells: nothing changes, or one
command is sent with its callback, whose cell, if it has one, goes from Uncached to waiting. -/
def QuietOrSend (x y : CxxrtlContainer) : Prop :=
  (y.commandChannel=x.commandChannel ∧ ∀ X : Cell,X.cache y.data=X.cache x.data) ∨
  ∃ command f,y.commandChannel=x.commandChannel.runCommand command f ∧
    ∀ X : Cell,(f.cell=some X → (X.cache x.data).isUncached=true) ∧
      X.cache y.data=if f.cell=some X then .waiting (X.cache x.data).get else X.cache x.data

theorem CxxrtlContainer.quietOrSend_fetchCell (c : CxxrtlContainer) (Y : Cell)
    (command : CxxrtlCommand) (f : Callback) (hf : f.cell=some Y) :
    QuietOrSend c (c.fetchCell Y command f).2 := by
  rw [fetchCell_eq]
  split_ifs with h
  · refine .inr ⟨command,f,rfl,fun X => ?_⟩
    by_cases e : X=Y
    · subst e
      simp [hf,h]
    · have hX : f.cell≠some X := by simp [hf,Ne.symm e]
      simp [hX,Cell.cache_set_ne _ e]
  · refine .inl ⟨rfl,fun X => ?_⟩
    by_cases e : X=Y
    · subst e
      simp
    · simp [Cell.cache_set_ne _ e]

theorem CxxrtlContainer.quietOrSend_runCommand (c : CxxrtlContainer) (d : CxxrtlData)
    (command : CxxrtlCommand) (f : Callback) (hf : f.cell=none)
    (hd : ∀ X : Cell,X.cache d=X.cache c.data) :
    QuietOrSend c ⟨c.commandChannel.runCommand command f,d⟩ :=
  .inr ⟨command,f,rfl,fun X => by simp [hf,hd X]⟩

/-- Every section but a response is quiet or one send. -/
theorem Section.apply_cases (sec : Section) (x : CxxrtlContainer) :
    QuietOrSend x (sec.apply x) ∨ ∃ r,sec=.respond r := by
  cases sec
  case loadVariables vars =>
    exact .inl (x.quietOrSend_runCommand _ _ _ rfl fun X => Cell.cache_loadVariables X x.data vars)
  case sendRunSimulation | pause => exact .inl (x.quietOrSend_runCommand _ _ _ rfl fun _ => rfl)
  case respond r => exact .inr ⟨r,rfl⟩
  case skip => exact .inl (.inl ⟨rfl,fun _ => rfl⟩)
  all_goals exact .inl (x.quietOrSend_fetchCell _ _ _ rfl)

namespace Sys

/-- The callbacks waiting for a response, oldest first. -/
def queue (s : Sys) : List Callback := s.container.commandChannel.callbackQueue

/-- The callback a step hands a response to, with the response: the oldest one waiting. -/
def delivered (s : Sys) : Action → Option (Callback × CommandResponse)
  | .respond r => s.queue.head?.map (·,r)
  | _ => none

/-- The callbacks responses reach along a run, each with its response, in delivery order. -/
def deliveries (s : Sys) : List Action → List (Callback × CommandResponse)
  | [] => []
  | a::as => (s.delivered a).toList++(s.step a).deliveries as

theorem deliveries_concat (s : Sys) (as : List Action) (a : Action) :
    s.deliveries (as++[a])=s.deliveries as++((s.run as).delivered a).toList := by
  induction as generalizing s with
  | nil => simp [deliveries]
  | cons b as ih => simp [deliveries,ih]

/-- Everything a step can do to the command channel and the cells: a call or a resume is
quiet or one send; a response is dropped when nothing waits, or runs the oldest callback. -/
theorem step_cases (s : Sys) (a : Action) :
    (s.delivered a=none ∧ QuietOrSend s.container (s.step a).container) ∨
    ∃ f r,s.delivered a=some (f,r) ∧ s.queue=f::(s.step a).queue ∧ (s.step a).sent=s.sent ∧
      (s.step a).data=f.run r s.data := by
  rcases a with c | _ | r
  case respond =>
    rcases hq : s.container.commandChannel.callbackQueue with _ | ⟨f,rest⟩
    · exact .inl ⟨by simp [delivered,queue,hq],.inl ⟨by simp [step,CxxrtlContainer.respond,hq],
        fun _ => by simp [step,CxxrtlContainer.respond,hq]⟩⟩
    · exact .inr ⟨f,r,by simp [delivered,queue,hq],by simp [step,queue,CxxrtlContainer.respond,hq],
        by simp [step,sent,CxxrtlContainer.respond,hq],by simp [step,data,CxxrtlContainer.respond,hq]⟩
  all_goals
    refine .inl ⟨rfl,?_⟩
    rw [step_container]
    rcases (s.section _).apply_cases s.container with h | ⟨r,hr⟩
    · exact h
    · cases section_respond hr

end Sys

theorem Sys.sent_run (s : Sys) (pre : List Callback) (h : s.sent.map Prod.snd=pre++s.queue)
    (run : List Action) :
    (s.run run).sent.map Prod.snd=pre++(s.deliveries run).map Prod.fst++(s.run run).queue := by
  induction run generalizing s pre with
  | nil => simpa using h
  | cons a run ih =>
    rw [Sys.run_cons,Sys.deliveries,List.map_append,← List.append_assoc]
    refine ih _ _ ?_
    rcases s.step_cases a with ⟨hd,⟨hc,-⟩ | ⟨command,f,hc,-⟩⟩ | ⟨f,r,hd,hq,hs,-⟩
    · simpa [Sys.sent,Sys.queue,hc,hd] using h
    · simp only [Sys.sent,Sys.queue] at h ⊢
      simp [hc,hd,CommandChannel.runCommand,h]
    · rw [hs,h,hq,hd]
      simp

/-- The requests outstanding for cell X: the waiting callbacks that fill it. -/
def pendingCount (X : Cell) (s : Sys) : Nat := s.queue.countP fun f => f.cell=some X

theorem pendingCount_le_refreshCount (X : Cell) (run : List Action) :
    pendingCount X (Sys.init.run run) ≤ refreshCount X (Sys.init.run run).sent := by
  have h := congrArg (List.countP fun f : Callback => f.cell=some X) (Sys.init.sent_run [] rfl run)
  simp only [List.countP_map,List.nil_append,List.countP_append,Function.comp_def] at h
  unfold pendingCount refreshCount
  omega

theorem pendingCount_cons (X : Cell) {s t : Sys} {f : Callback} (h : s.queue=f::t.queue) :
    pendingCount X s=pendingCount X t+if f.cell=some X then 1 else 0 := by
  simp [pendingCount,h,List.countP_cons]

theorem pendingCount_send (X : Cell) {s t : Sys} {command : CxxrtlCommand} {f : Callback}
    (h : t.container.commandChannel=s.container.commandChannel.runCommand command f) :
    pendingCount X t=pendingCount X s+if f.cell=some X then 1 else 0 := by
  simp [pendingCount,Sys.queue,h,CommandChannel.runCommand,List.countP_append,List.countP_cons]

theorem refreshCount_send (X : Cell) {s t : Sys} {command : CxxrtlCommand} {f : Callback}
    (h : t.container.commandChannel=s.container.commandChannel.runCommand command f) :
    refreshCount X t.sent=refreshCount X s.sent+if f.cell=some X then 1 else 0 := by
  rw [Sys.sent,h]
  exact refreshCount_concat X _ command f

section Outstanding

variable (X : Cell) (hq : X≠.queryResult) (hs : X≠.simulationStatus)

/-- For a cell other than query_result and simulation_status: at most one request is
outstanding, and while one is the cell waits. -/
def PendingInv (s : Sys) : Prop :=
  pendingCount X s ≤ 1 ∧ (0 < pendingCount X s → (X.cache s.data).isWaiting=true)

include hq hs in
theorem pendingInv_step (s : Sys) (a : Action) (h : pendingCount X (s.step a) ≤ 1)
    (ih : PendingInv X s) : PendingInv X (s.step a) := by
  refine ⟨h,?_⟩
  rcases s.step_cases a with ⟨-,⟨hc,hX⟩ | ⟨command,f,hc,hX⟩⟩ | ⟨f,r,-,hf,-,hd⟩
  · simpa [pendingCount,Sys.queue,Sys.data,hc,hX] using ih.2
  · rw [pendingCount_send X hc,Sys.data,(hX X).2]
    by_cases e : f.cell=some X
    · simp [e,CachedData.isWaiting]
    · simpa [e] using ih.2
  · rw [PendingInv,pendingCount_cons X hf] at ih
    by_cases e : f.cell=some X
    · simp only [e,if_true] at ih
      omega
    · rw [hd,Callback.cache_run_of_ne f r s.data e hq hs]
      simpa [e] using ih.2

include hq hs in
theorem pendingInv_run (run : List Action) : PendingInv X (Sys.init.run run) := by
  induction run using List.reverseRecOn with
  | nil => exact ⟨Nat.zero_le 1,nofun⟩
  | append_singleton run a ih =>
    have h := (pendingCount_le_refreshCount X (run++[a])).trans (refreshInv_run X hq (run++[a])).1
    rw [Sys.run_concat] at h ⊢
    exact pendingInv_step X hq hs _ a h ih

include hq hs in
/-- While a request for a cell other than query_result and simulation_status is outstanding,
the cell waits, along every run. -/
theorem outstanding_request_keeps_cell_waiting (run : List Action) :
    0 < pendingCount X (Sys.init.run run) → (X.cache (Sys.init.run run).data).isWaiting=true :=
  (pendingInv_run X hq hs run).2

/-- modules() sends list_scopes and leaves its request outstanding. -/
theorem outstanding_request_keeps_cell_waiting_scopes :
    Cell.scopes≠.queryResult ∧ Cell.scopes≠.simulationStatus ∧
    0 < pendingCount .scopes (Sys.init.run [.call .modules]) ∧
    (0 < pendingCount .scopes (Sys.init.run [.call .modules]) →
      (Cell.scopes.cache (Sys.init.run [.call .modules]).data).isWaiting=true) :=
  ⟨by decide,by decide,by decide,
    outstanding_request_keeps_cell_waiting .scopes (by decide) (by decide) _⟩

/-- After a lost response the cell keeps the state it had, nothing for it is outstanding, and
the count of requests sent for it stays n. -/
def LostInv (c : CachedData X.Payload) (n : Nat) (t : Sys) : Prop :=
  X.cache t.data=c ∧ pendingCount X t=0 ∧ refreshCount X t.sent=n

include hq hs in
theorem lostInv_step {c : CachedData X.Payload} (hc : c.isWaiting=true) {n : Nat} (t : Sys)
    (a : Action) (h : LostInv X c n t) : LostInv X c n (t.step a) := by
  obtain ⟨h1,h2,h3⟩ := h
  rcases t.step_cases a with ⟨-,⟨hch,hX⟩ | ⟨command,f,hch,hX⟩⟩ | ⟨f,r,-,hf,hsent,hd⟩
  · exact ⟨(hX X).trans h1,by simpa [pendingCount,Sys.queue,hch] using h2,
      by simpa [Sys.sent,hch] using h3⟩
  · have e : f.cell≠some X := fun e => by
      have hu : c.isUncached=true := h1 ▸ (hX X).1 e
      simp [CachedData.isUncached_of_isWaiting hc] at hu
    exact ⟨((hX X).2.trans (if_neg e)).trans h1,by rw [pendingCount_send X hch,h2,if_neg e],
      by rw [refreshCount_send X hch,h3,if_neg e,Nat.add_zero]⟩
  · rw [pendingCount_cons X hf] at h2
    have e : f.cell≠some X := fun e => by simp [e] at h2
    exact ⟨by rw [hd,Callback.cache_run_of_ne f r t.data e hq hs,← h1],by omega,
      by rw [hsent,h3]⟩

include hq hs in
theorem lostInv_run {c : CachedData X.Payload} (hc : c.isWaiting=true) {n : Nat} (t : Sys)
    (later : List Action) (h : LostInv X c n t) : LostInv X c n (t.run later) := by
  induction later generalizing t with
  | nil => exact h
  | cons a later ih => exact ih _ (lostInv_step X hq hs hc t a h)

include hq hs in
/-- A response of another variant, handed to the request of a cell other than query_result
and simulation_status, is lost: the cell was waiting, and from then on, whatever runs next,
it keeps that state and no second request for it is ever sent. -/
theorem lost_response_leaves_cell_waiting (run : List Action) (f : Callback) (r : CommandResponse)
    (hf : (Sys.init.run run).queue.head?=some f) (hX : f.cell=some X) (hr : f.expects r=false)
    (later : List Action) :
    (X.cache (Sys.init.run run).data).isWaiting=true ∧
    X.cache (Sys.init.run (run++.respond r::later)).data=X.cache (Sys.init.run run).data ∧
    refreshCount X (Sys.init.run (run++.respond r::later)).sent=1 := by
  obtain ⟨rest,hq'⟩ := List.head?_eq_some_iff.1 hf
  have hp : pendingCount X (Sys.init.run run)=1 := by
    have := (pendingInv_run X hq hs run).1
    simp only [pendingCount,hq',List.countP_cons,hX,decide_True,if_true] at this ⊢
    omega
  have hw := (pendingInv_run X hq hs run).2 (by omega)
  have hn : refreshCount X (Sys.init.run run).sent=1 :=
    le_antisymm (refreshInv_run X hq run).1 (hp ▸ pendingCount_le_refreshCount X run)
  have h0 : LostInv X (X.cache (Sys.init.run run).data) 1 ((Sys.init.run run).step (.respond r)) := by
    rcases (Sys.init.run run).step_cases (.respond r) with ⟨hd,-⟩ | ⟨f',r',hd,hf',hsent,hdata⟩
    · simp [Sys.delivered,hq'] at hd
    · obtain ⟨rfl,rfl⟩ : f=f' ∧ r=r' := by simpa [Sys.delivered,hq'] using hd
      have := pendingCount_cons X hf'
      rw [hp,if_pos hX] at this
      exact ⟨by rw [hdata,Callback.run_eq_self_of_unexpected f r _ hX hr],by omega,by rw [hsent,hn]⟩
  obtain ⟨h1,-,h3⟩ := lostInv_run X hq hs hw _ later h0
  rw [Sys.run_append,Sys.run_cons]
  exact ⟨hw,h1,h3⟩

/-- The scopes request answered with an item list: a second modules call finds scopes still
waiting and sends nothing. -/
theorem lost_response_leaves_cell_waiting_scopes :
    Cell.scopes≠.queryResult ∧ Cell.scopes≠.simulationStatus ∧
    (Sys.init.run [.call .modules]).queue.head?=some .getScopes ∧
    Callback.getScopes.cell=some .scopes ∧ Callback.getScopes.expects (.listItems ∅)=false ∧
    ((Cell.scopes.cache (Sys.init.run [.call .modules]).data).isWaiting=true ∧
    Cell.scopes.cache (Sys.init.run ([.call .modules]++.respond (.listItems ∅)::[.call .modules])).data=
      Cell.scopes.cache (Sys.init.run [.call .modules]).data ∧
    refreshCount .scopes (Sys.init.run ([.call .modules]++.respond (.listItems ∅)::[.call .modules])).sent=1) :=
  ⟨by decide,by decide,rfl,rfl,rfl,lost_response_leaves_cell_waiting .scopes (by decide) (by decide)
    [.call .modules] .getScopes (.listItems ∅) rfl rfl rfl [.call .modules]⟩

end Outstanding

theorem waiting_pending_step (X : Cell) (s : Sys) (a : Action)
    (hm : ∀ p∈(s.delivered a).toList,p.1.expects p.2=true)
    (ih : (X.cache s.data).isWaiting=true → 0 < pendingCount X s) :
    (X.cache (s.step a).data).isWaiting=true → 0 < pendingCount X (s.step a) := by
  rcases s.step_cases a with ⟨-,⟨hc,hX⟩ | ⟨command,f,hc,hX⟩⟩ | ⟨f,r,hd,hf,-,hdata⟩
  · simpa [pendingCount,Sys.queue,Sys.data,hc,hX] using ih
  · rw [pendingCount_send X hc,Sys.data,(hX X).2]
    by_cases e : f.cell=some X
    · simp [e]
    · simpa [e] using ih
  · have hr : f.expects r=true := hm (f,r) (by simp [hd])
    rw [pendingCount_cons X hf] at ih
    rw [hdata]
    by_cases e : f.cell=some X
    · simp [Callback.isWaiting_run_of_expects f r s.data e hr]
    · rcases Callback.cache_run_eq_or_settled f r s.data X with h | h
      · simpa [h,e] using ih
      · simp [h]

/-- While every response reaches a callback expecting its variant, a cell waits only with a
request for it outstanding, along every run. -/
theorem waiting_cell_has_outstanding_request (X : Cell) (run : List Action)
    (hm : ∀ p∈Sys.init.deliveries run,p.1.expects p.2=true) :
    (X.cache (Sys.init.run run).data).isWaiting=true → 0 < pendingCount X (Sys.init.run run) := by
  induction run using List.reverseRecOn with
  | nil => simp [CachedData.empty,CachedData.isWaiting]
  | append_singleton run a ih =>
    rw [Sys.deliveries_concat] at hm
    rw [Sys.run_concat]
    exact waiting_pending_step X _ a (fun p hp => hm p (List.mem_append_right _ hp))
      (ih fun p hp => hm p (List.mem_append_left _ hp))

theorem waiting_cell_has_outstanding_request_module :
    (∀ p∈Sys.init.deliveries [.call .modules,.respond (.listScopes ∅),.call (.variablesInModule ⟨[]⟩)],
      p.1.expects p.2=true) ∧
    ((Cell.moduleItems ⟨[]⟩).cache (Sys.init.run [.call .modules,.respond (.listScopes ∅),
      .call (.variablesInModule ⟨[]⟩)]).data).isWaiting=true ∧
    0 < pendingCount (.moduleItems ⟨[]⟩) (Sys.init.run [.call .modules,.respond (.listScopes ∅),
      .call (.variablesInModule ⟨[]⟩)]) := by
  have hm : ∀ p∈Sys.init.deliveries [.call .modules,.respond (.listScopes ∅),
      .call (.variablesInModule ⟨[]⟩)],p.1.expects p.2=true := by decide
  have hw : ((Cell.moduleItems ⟨[]⟩).cache (Sys.init.run [.call .modules,.respond (.listScopes ∅),
      .call (.variablesInModule ⟨[]⟩)]).data).isWaiting=true := by decide
  exact ⟨hm,hw,waiting_cell_has_outstanding_request _ _ hm hw⟩

end SurferCxxrtl
