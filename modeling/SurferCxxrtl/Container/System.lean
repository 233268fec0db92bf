import SurferCxxrtl.Container.Facade

namespace SurferCxxrtl

/-- The public methods of CxxrtlContainer, called from the one application thread. -/
inductive Call
  | modules
  | rootModules
  | moduleExists (module : ScopeRef)
  | childScopes (parent : ScopeRef)
  | variablesInModule (module : ScopeRef)
  | noVariablesInModule (module : ScopeRef)
  | variableMeta (var : VariableRef)
  | maxDisplayedTimestamp
  | maxTimestamp
  | queryVariable (var : VariableRef) (time : Nat)
  | loadVariables (vars : List VariableRef)
  | simulationStatus
  | unpause
  | pause

/-- Where the application thread stands inside a call that releases the lock between its
sections: query_variable after max_timestamp and after fetch_all_items, unpause after
raw_simulation_status. -/
inductive Caller
  | idle
  | queryVariable (var : VariableRef) (time : Nat) (maxTimestamp : CxxrtlTimestamp)
  | queryCached (var : VariableRef) (time : Nat) (maxTimestamp : CxxrtlTimestamp)
      (info : HashMap VariableRef CxxrtlItem)
  | unpause (duration : CxxrtlTimestamp)

/-- The application starts a call, continues the one it is in, or the worker applies the
simulator's next response. -/
inductive Action
  | call (c : Call)
  | resume
  | respond (response : CommandResponse)

structure Sys where
  container : CxxrtlContainer
  caller : Caller

/-- The first section of a call, and where the thread stands after it. -/
def Call.start (x : CxxrtlContainer) : Call → Sys
  | .modules => ⟨x.modules.2,.idle⟩
  | .rootModules => ⟨x.rootModules.2,.idle⟩
  | .moduleExists m => ⟨(x.moduleExists m).2,.idle⟩
  | .childScopes p => ⟨(x.childScopes p).2,.idle⟩
  | .variablesInModule m => ⟨(x.variablesInModule m).2,.idle⟩
  | .noVariablesInModule m => ⟨(x.noVariablesInModule m).2,.idle⟩
  | .variableMeta v => ⟨(x.variableMeta v).2,.idle⟩
  | .maxDisplayedTimestamp => ⟨x,.idle⟩
  | .maxTimestamp => ⟨x.maxTimestamp.2,.idle⟩
  | .queryVariable var time =>
    match x.maxTimestamp with
    | (none,x) => ⟨x,.idle⟩
    | (some t,x) => ⟨x,.queryVariable var time t⟩
  | .loadVariables vars => ⟨x.loadVariables vars,.idle⟩
  | .simulationStatus => ⟨x.simulationStatus.2,.idle⟩
  | .unpause =>
    let (s,x) := x.rawSimulationStatus
    ⟨x,.unpause (CxxrtlContainer.unpauseDuration s)⟩
  | .pause => ⟨x.pause,.idle⟩

namespace Sys

def init : Sys := ⟨.new,.idle⟩

def data (s : Sys) : CxxrtlData := s.container.data
def sent (s : Sys) : List (CxxrtlCommand × Callback) := s.container.commandChannel.sent

/-- The next section of the call in progress. -/
def resume (s : Sys) : Sys :=
  match s.caller with
  | .idle => s
  | .queryVariable var time t =>
    match s.container.fetchAllItems with
    | (none,x) => ⟨x,.idle⟩
    | (some info,x) => ⟨x,.queryCached var time t info⟩
  | .queryCached var time t info => ⟨(s.container.queryCached var time t info).2,.idle⟩
  | .unpause d => ⟨s.container.sendRunSimulation d,.idle⟩

/-- A call starts only on an idle thread. -/
def step (s : Sys) : Action → Sys
  | .call c =>
    match s.caller with
    | .idle => c.start s.container
    | _ => s
  | .resume => s.resume
  | .respond r => ⟨s.container.respond r,s.caller⟩

def run (s : Sys) (as : List Action) : Sys := as.foldl step s

/-- Every state a run passes through, the first and the last included. -/
def trace (s : Sys) : List Action → List Sys
  | [] => [s]
  | a::as => s::(s.step a).trace as

@[simp] theorem run_nil (s : Sys) : s.run []=s := rfl
@[simp] theorem run_cons (s : Sys) (a : Action) (as : List Action) :
    s.run (a::as)=(s.step a).run as := rfl
theorem run_append (s : Sys) (as bs : List Action) : s.run (as++bs)=(s.run as).run bs :=
  List.foldl_append _ _ _ _
@[simp] theorem run_concat (s : Sys) (as : List Action) (a : Action) :
    s.run (as++[a])=(s.run as).step a := by
  simp [run_append]

end Sys

/-- The atomic transitions of the container: one locked section of a call, a send made
without the lock, or the worker applying one response. -/
inductive Section
  | getScopes
  | fetchAllItems
  | fetchItemsInModule (scope : ScopeRef)
  | rawSimulationStatus
  | queryCached (var : VariableRef) (time : Nat) (maxTimestamp : CxxrtlTimestamp)
      (info : HashMap VariableRef CxxrtlItem)
  | loadVariables (vars : List VariableRef)
  | sendRunSimulation (duration : CxxrtlTimestamp)
  | pause
  | respond (response : CommandResponse)
  | skip

def Section.apply (x : CxxrtlContainer) : Section → CxxrtlContainer
  | .getScopes => x.getScopes.2
  | .fetchAllItems => x.fetchAllItems.2
  | .fetchItemsInModule m => (x.fetchItemsInModule m).2
  | .rawSimulationStatus => x.rawSimulationStatus.2
  | .queryCached var time t info => (x.queryCached var time t info).2
  | .loadVariables vars => x.loadVariables vars
  | .sendRunSimulation d => x.sendRunSimulation d
  | .pause => x.pause
  | .respond r => x.respond r
  | .skip => x

/-- The section a call runs first. -/
def Call.firstSection : Call → Section
  | .modules | .rootModules | .moduleExists _ | .childScopes _ => .getScopes
  | .variablesInModule m | .noVariablesInModule m => .fetchItemsInModule m
  | .variableMeta _ => .fetchAllItems
  | .maxDisplayedTimestamp => .skip
  | .maxTimestamp | .simulationStatus | .queryVariable _ _ | .unpause => .rawSimulationStatus
  | .loadVariables vars => .loadVariables vars
  | .pause => .pause

/-- The section the thread runs when it continues its call. -/
def Caller.nextSection : Caller → Section
  | .idle => .skip
  | .queryVariable .. => .fetchAllItems
  | .queryCached var time t info => .queryCached var time t info
  | .unpause d => .sendRunSimulation d

def Sys.section (s : Sys) : Action → Section
  | .call c =>
    match s.caller with
    | .idle => c.firstSection
    | _ => .skip
  | .resume => s.caller.nextSection
  | .respond r => .respond r

theorem Call.start_container (x : CxxrtlContainer) (c : Call) :
    (c.start x).container=c.firstSection.apply x := by
  cases c
  case queryVariable =>
    simp only [start]
    split <;> simp_all [CxxrtlContainer.maxTimestamp,firstSection,Section.apply]
  all_goals rfl

/-- Every step of the system is one atomic section of the container. -/
theorem Sys.step_container (s : Sys) (a : Action) :
    (s.step a).container=(s.section a).apply s.container := by
  rcases a with c | _ | r
  · simp only [step,Sys.section]
    split
    · exact Call.start_container _ c
    · rfl
  · rcases s with ⟨x,_ | _ | _ | _⟩ <;> try rfl
    simp only [step,resume,Sys.section,Caller.nextSection,Section.apply]
    split <;> simp_all
  · rfl

/-- Run back to back, the sections of query_variable compute the whole call. -/
theorem Sys.queryVariable_sections (x : CxxrtlContainer) (var : VariableRef) (time : Nat) :
    (Sys.run ⟨x,.idle⟩ [.call (.queryVariable var time),.resume,.resume]).container=
      (x.queryVariable var time).2 := by
  simp only [run_cons,run_nil,step,Call.start,CxxrtlContainer.queryVariable]
  rcases x.maxTimestamp with ⟨_ | t,y⟩
  · rfl
  · simp only [resume]
    rcases y.fetchAllItems with ⟨_ | info,z⟩ <;> rfl

/-- Run back to back, the two halves of unpause compute the whole call. -/
theorem Sys.unpause_sections (x : CxxrtlContainer) :
    (Sys.run ⟨x,.idle⟩ [.call .unpause,.resume]).container=x.unpause := rfl

end SurferCxxrtl
