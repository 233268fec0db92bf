import SurferCxxrtl.Properties.Cells

namespace SurferCxxrtl

/-- The simulation time a response reports: get_simulation_status' latest_time, or the time
pause_simulation stopped at. -/
def CommandResponse.reportedTime : CommandResponse → Option Nat
  | .getSimulationStatus status => some status.latestTime.asFemtoseconds
  | .pauseSimulation time => some time.asFemtoseconds
  | _ => none

def Action.reportedTime : Action → Option Nat
  | .respond r => r.reportedTime
  | _ => none

/-- The times the simulator reports along a run, in delivery order. -/
def reportedTimes (run : List Action) : List Nat := run.filterMap Action.reportedTime

theorem reportedTimes_concat (run : List Action) (a : Action) :
    reportedTimes (run++[a])=reportedTimes run++a.reportedTime.toList := by
  cases h : a.reportedTime <;> simp [reportedTimes,h]

/-- Whether an action delivers a response to unpause's callback. -/
def Sys.repliesToUnpause (s : Sys) : Action → Bool
  | .respond _ =>
    match s.container.commandChannel.callbackQueue with
    | .unpause::_ => true
    | _ => false
  | _ => false

/-- What a callback does to the status simulation_status reads: nothing, unpause's reset,
or setting the status a response reports. -/
theorem Callback.status_run (cb : Callback) (r : CommandResponse) (d : CxxrtlData) :
    (cb.run r d).simulationStatus.get=d.simulationStatus.get ∨ cb=.unpause ∨
    ∃ st,r.reportedTime=some st.latestTime.asFemtoseconds ∧ (cb.run r d).simulationStatus.get=some st := by
  unfold Callback.run
  split <;> simp [CommandResponse.reportedTime,Cell.set,CxxrtlData.onSimulationStatusUpdate,
    CxxrtlData.invalidateQueryResult]

theorem CxxrtlContainer.get_fetchCell (c : CxxrtlContainer) (Y X : Cell) (command : CxxrtlCommand)
    (f : Callback) : (X.cache (c.fetchCell Y command f).2.data).get=(X.cache c.data).get := by
  rw [fetchCell_eq]
  by_cases e : X=Y
  · subst e
    split_ifs <;> simp
  · simp [Cell.cache_set_ne _ e]

/-- Only a response changes the status simulation_status reads. -/
theorem Section.status_apply (sec : Section) (x : CxxrtlContainer) :
    (sec.apply x).data.simulationStatus.get=x.data.simulationStatus.get ∨ ∃ r,sec=.respond r := by
  cases sec
  case respond r => exact .inr ⟨r,rfl⟩
  case loadVariables vars =>
    exact .inl (congrArg CachedData.get (Cell.cache_loadVariables .simulationStatus x.data vars))
  case sendRunSimulation | pause | skip => exact .inl rfl
  all_goals exact .inl (CxxrtlContainer.get_fetchCell _ _ .simulationStatus _ _)

theorem Sys.section_respond {s : Sys} {a : Action} {r : CommandResponse} (h : s.section a=.respond r) :
    a=.respond r := by
  rcases a with c | _ | _
  · simp only [Sys.section] at h
    split at h <;> cases c <;> cases h
  · rcases s with ⟨_,_ | _ | _ | _⟩ <;> cases h
  · cases h
    rfl

/-- What a step does to the status simulation_status reads. -/
theorem Sys.status_step (s : Sys) (a : Action) :
    (s.step a).data.simulationStatus.get=s.data.simulationStatus.get ∨ s.repliesToUnpause a=true ∨
    ∃ st,a.reportedTime=some st.latestTime.asFemtoseconds ∧
      (s.step a).data.simulationStatus.get=some st := by
  rcases (s.section a).status_apply s.container with h | ⟨r,hr⟩
  · rw [Sys.data,Sys.step_container]
    exact .inl h
  · obtain rfl := Sys.section_respond hr
    rcases hq : s.container.commandChannel.callbackQueue with _ | ⟨f,rest⟩
    · exact .inl (by simp [step,CxxrtlContainer.respond,hq,Sys.data])
    · simp only [step,Sys.data,CxxrtlContainer.respond,repliesToUnpause,hq,Action.reportedTime]
      rcases Callback.status_run f r s.data with h | rfl | h
      · exact .inl h
      · exact .inr (.inl rfl)
      · exact .inr (.inr h)

theorem Sys.status_repliesToUnpause {s : Sys} {a : Action} (h : s.repliesToUnpause a=true) :
    (s.step a).data.simulationStatus=.filled ⟨.running,.zero⟩ := by
  rcases a with _ | _ | r
  · cases h
  · cases h
  · rcases hq : s.container.commandChannel.callbackQueue with _ | ⟨f,rest⟩
    · simp [repliesToUnpause,hq] at h
    · cases f <;> simp [repliesToUnpause,hq] at h
      simp [step,Sys.data,CxxrtlContainer.respond,hq,Callback.run,Cell.set]

/-- Every latest_time simulation_status can read was reported by the simulator, or is the
zero unpause's callback writes. -/
def StatusTimeInv (s : Sys) (reports : List Nat) : Prop :=
  ∀ st,s.data.simulationStatus.get=some st →
    st.latestTime.asFemtoseconds=0 ∨ st.latestTime.asFemtoseconds∈reports

theorem statusTimeInv_step {s : Sys} {reports : List Nat} (h : StatusTimeInv s reports) (a : Action) :
    StatusTimeInv (s.step a) (reports++a.reportedTime.toList) := by
  intro st hst
  rcases s.status_step a with e | e | ⟨st',ha,e⟩
  · exact (h st (e ▸ hst)).imp_right (List.mem_append_left _)
  · rw [Sys.status_repliesToUnpause e,CachedData.get_filled,Option.some.injEq] at hst
    exact .inl (by rw [← hst]; rfl)
  · rw [e,Option.some.injEq] at hst
    exact .inr (by simp [← hst,ha])

theorem statusTimeInv_run (run : List Action) :
    StatusTimeInv (Sys.init.run run) (reportedTimes run) := by
  induction run using List.reverseRecOn with
  | nil => exact fun st h => by cases h
  | append_singleton run a ih =>
    rw [Sys.run_concat,reportedTimes_concat]
    exact statusTimeInv_step ih a

theorem Sys.maxTimestamp_fst (s : Sys) :
    s.container.maxTimestamp.1=s.data.simulationStatus.get.map (·.latestTime) := by
  simp only [CxxrtlContainer.maxTimestamp,CxxrtlContainer.rawSimulationStatus,
    CxxrtlContainer.fetchCell_eq]
  rfl

/-- After a pause reported at 200000000 fs, the second unpause reads back the zero the first
unpause's callback wrote: max_timestamp falls from 200000000 to 0, and the second
run_simulation targets 100000000 fs, below the first's 300000000 and below the reported
stop, although the one reported time never decreases. -/
theorem unpause_resets_max_timestamp :
    (reportedTimes [.call .pause,.respond (.pauseSimulation ⟨200000000⟩),.call .unpause,.resume,
      .respond .runSimulation,.call .unpause,.resume]).Pairwise (·≤·) ∧
    (Sys.init.run [.call .pause,.respond (.pauseSimulation ⟨200000000⟩)]).container.maxTimestamp.1=
      some ⟨200000000⟩ ∧
    (Sys.init.run [.call .pause,.respond (.pauseSimulation ⟨200000000⟩),.call .unpause,.resume,
      .respond .runSimulation]).container.maxTimestamp.1=some ⟨0⟩ ∧
    (Sys.init.run [.call .pause,.respond (.pauseSimulation ⟨200000000⟩),.call .unpause,.resume,
      .respond .runSimulation,.call .unpause,.resume]).sent.map Prod.fst=
      [.pauseSimulation,.runSimulation (some ⟨300000000⟩) true,
        .runSimulation (some ⟨100000000⟩) true] := by
  decide

/-- While the times the simulator reports never decrease, the value max_timestamp returns
never decreases across a step and, once some, stays some; the one exception is a response
delivered to unpause's callback, after which it is zero. -/
theorem max_timestamp_monotone_except_unpause (run : List Action) (a : Action)
    (hsorted : (reportedTimes (run++[a])).Pairwise (·≤·)) :
    ((Sys.init.run run).repliesToUnpause a=false → ∀ t,(Sys.init.run run).container.maxTimestamp.1=some t →
      ∃ t',((Sys.init.run run).step a).container.maxTimestamp.1=some t' ∧
        t.asFemtoseconds ≤ t'.asFemtoseconds) ∧
    ((Sys.init.run run).repliesToUnpause a=true →
      ((Sys.init.run run).step a).container.maxTimestamp.1=some .zero) := by
  have hinv := statusTimeInv_run run
  set s := Sys.init.run run
  rw [reportedTimes_concat,List.pairwise_append] at hsorted
  simp only [Sys.maxTimestamp_fst]
  refine ⟨fun hu t ht => ?_,fun hu => by rw [Sys.status_repliesToUnpause hu]; rfl⟩
  obtain ⟨st,hst,rfl⟩ := Option.map_eq_some'.1 ht
  rcases s.status_step a with e | e | ⟨st',ha,e⟩
  · exact ⟨st.latestTime,by rw [e,hst]; rfl,le_rfl⟩
  · exact absurd e (by simp [hu])
  · refine ⟨st'.latestTime,by rw [e]; rfl,?_⟩
    rcases hinv st hst with h0 | hm
    · omega
    · exact hsorted.2.2 _ hm _ (by simp [ha])

/-- Two pauses reported at 5 and then 7 fs: before the second response max_timestamp reads 5
and the response goes to pause's callback, not unpause's. -/
theorem max_timestamp_monotone_pause_pause :
    let run : List Action := [.call .pause,.respond (.pauseSimulation ⟨5⟩),.call .pause]
    let a : Action := .respond (.pauseSimulation ⟨7⟩)
    (reportedTimes (run++[a])).Pairwise (·≤·) ∧
    (Sys.init.run run).repliesToUnpause a=false ∧
    (Sys.init.run run).container.maxTimestamp.1=some ⟨5⟩ ∧
    ((Sys.init.run run).repliesToUnpause a=false → ∀ t,(Sys.init.run run).container.maxTimestamp.1=some t →
      ∃ t',((Sys.init.run run).step a).container.maxTimestamp.1=some t' ∧
        t.asFemtoseconds ≤ t'.asFemtoseconds) ∧
    ((Sys.init.run run).repliesToUnpause a=true →
      ((Sys.init.run run).step a).container.maxTimestamp.1=some .zero) := by
  intro run a
  have h : (reportedTimes (run++[a])).Pairwise (·≤·) := by decide
  exact ⟨h,by decide,by decide,max_timestamp_monotone_except_unpause run a h⟩

/-- The schedule of a stale query: the status is known (paused at 0) and the item table
fetched; pause is sent, then query_variable sends query_interval over [0, 0] before the
pause response arrives; the simulator answers both in order. -/
def staleQueryRun : List Action :=
  [.call .maxTimestamp,.respond (.getSimulationStatus ⟨.paused,.zero⟩),
   .call (.variableMeta ⟨⟨[]⟩,"clk"⟩),.respond (.listItems ∅),
   .call .pause,.call (.queryVariable ⟨⟨[]⟩,"clk"⟩ 0),.resume,.resume,
   .respond (.pauseSimulation ⟨5⟩),.respond (.queryInterval [])]

/-- With nothing outstanding at the end of the stale schedule, the query callback has
filled query_result with the window end 0 that the pause response had invalidated, while
simulation_status says the simulation stopped at 5. -/
theorem stale_query_refills_window :
    (Sys.init.run staleQueryRun).container.commandChannel.callbackQueue=[] ∧
    (Sys.init.run staleQueryRun).data.queryResult=.filled .zero ∧
    (Sys.init.run staleQueryRun).data.simulationStatus=.filled ⟨.paused,⟨5⟩⟩ :=
  ⟨rfl,rfl,rfl⟩

end SurferCxxrtl
