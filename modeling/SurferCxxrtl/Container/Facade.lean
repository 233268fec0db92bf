import SurferCxxrtl.Container.Data

namespace SurferCxxrtl

/-- The command channel as the worker drains it: every command written to the simulator with
its callback, in order, and the callbacks still waiting for a response, oldest first. -/
structure CommandChannel where
  sent : List (CxxrtlCommand × Callback)
  /-- Modelled from the spec: the worker's callback_queue (CxxrtlWorker in cxxrtl/io_worker.rs,
  not in the source given), which run_command's callbacks join in the order they are sent. -/
  callbackQueue : List Callback

def CommandChannel.runCommand (ch : CommandChannel) (command : CxxrtlCommand) (f : Callback) :
    CommandChannel :=
  ⟨ch.sent++[(command,f)],ch.callbackQueue++[f]⟩

structure CxxrtlContainer where
  commandChannel : CommandChannel
  data : CxxrtlData

/-- Mirrors wave_container's SimulationStatus. -/
inductive SimulationStatus
  | running
  | paused
  | finished
  deriving DecidableEq, Repr

/-- Mirrors VariableMeta by the field this container decides; the others are constants. -/
structure VariableMeta where
  var : VariableRef
  numBits : Option UInt32
  deriving DecidableEq, Repr

namespace CxxrtlContainer

/-- CxxrtlContainer::new after the greeting: every cache empty, nothing sent yet. -/
def new : CxxrtlContainer :=
  ⟨⟨[],[]⟩,⟨.empty,∅,.empty,.empty,.empty,[],∅,.empty⟩⟩

def runCommand (c : CxxrtlContainer) (command : CxxrtlCommand) (f : Callback) :
    CxxrtlContainer :=
  {c with commandChannel := c.commandChannel.runCommand command f}

/-- One locked fetch_if_needed on cell X, sending command with its callback on a miss. -/
def fetchCell (c : CxxrtlContainer) (X : Cell) (command : CxxrtlCommand) (f : Callback) :
    Option X.Payload × CxxrtlContainer :=
  let (r,x,ch) := (X.cache c.data).fetchIfNeeded (·.runCommand command f) c.commandChannel
  (r,⟨ch,X.set c.data x⟩)

theorem fetchCell_eq (c : CxxrtlContainer) (X : Cell) (command : CxxrtlCommand) (f : Callback) :
    c.fetchCell X command f=((X.cache c.data).get,
      ⟨if (X.cache c.data).isUncached then c.commandChannel.runCommand command f
        else c.commandChannel,
       X.set c.data (if (X.cache c.data).isUncached then .waiting (X.cache c.data).get
        else X.cache c.data)⟩) := by
  simp only [fetchCell,CachedData.fetchIfNeeded_eq]

def getScopes (c : CxxrtlContainer) : HashMap ScopeRef CxxrtlScope × CxxrtlContainer :=
  let (r,c) := c.fetchCell .scopes (.listScopes none) .getScopes
  (r.getD ∅,c)

def fetchItem (c : CxxrtlContainer) (var : VariableRef) : Option CxxrtlItem × CxxrtlContainer :=
  let (r,c) := c.fetchCell .allItems (.listItems none) .fetchAllItems
  (r.bind (AList.lookup var),c)

def fetchAllItems (c : CxxrtlContainer) :
    Option (HashMap VariableRef CxxrtlItem) × CxxrtlContainer :=
  c.fetchCell .allItems (.listItems none) .fetchAllItems

def fetchItemsInModule (c : CxxrtlContainer) (scope : ScopeRef) :
    HashMap VariableRef CxxrtlItem × CxxrtlContainer :=
  let (r,c) := c.fetchCell (.moduleItems scope) (.listItems (some scope.cxxrtlRepr))
    (.fetchItemsInModule scope)
  (r.getD ∅,c)

def scopes (c : CxxrtlContainer) : Option (HashMap ScopeRef CxxrtlScope) × CxxrtlContainer :=
  let (r,c) := c.getScopes
  (some r,c)

def modules (c : CxxrtlContainer) : List ScopeRef × CxxrtlContainer :=
  let (r,c) := c.scopes
  ((r.map (·.keys)).getD [],c)

/-- In the cxxrtl protocol the root scope is always "", which root_modules returns as the
empty path. -/
def rootModules (c : CxxrtlContainer) : List ScopeRef × CxxrtlContainer :=
  let (r,c) := c.scopes
  (if r.isSome then [⟨[]⟩] else [],c)

def moduleExists (c : CxxrtlContainer) (module : ScopeRef) : Bool × CxxrtlContainer :=
  let (r,c) := c.scopes
  (r.any (module ∈ ·),c)

/-- The filter_map closure of child_scopes. -/
def isChildScope (parent scope : ScopeRef) : Bool :=
  scope.strs.length=parent.strs.length+1 &&
    scope.strs.take parent.strs.length=parent.strs.take parent.strs.length

def childScopes (c : CxxrtlContainer) (parent : ScopeRef) : List ScopeRef × CxxrtlContainer :=
  let (r,c) := c.scopes
  ((r.map fun s => s.keys.filter (isChildScope parent)).getD [],c)

def variablesInModule (c : CxxrtlContainer) (module : ScopeRef) : List VariableRef × CxxrtlContainer :=
  let (r,c) := c.fetchItemsInModule module
  (r.keys,c)

def noVariablesInModule (c : CxxrtlContainer) (module : ScopeRef) : Bool × CxxrtlContainer :=
  let (r,c) := c.fetchItemsInModule module
  (r.entries.isEmpty,c)

def variableMeta (c : CxxrtlContainer) (var : VariableRef) : VariableMeta × CxxrtlContainer :=
  let (r,c) := c.fetchItem var
  (⟨var,r.map (·.width)⟩,c)

def maxDisplayedTimestamp (c : CxxrtlContainer) : Option CxxrtlTimestamp :=
  c.data.queryResult.get

def rawSimulationStatus (c : CxxrtlContainer) : Option CxxrtlSimulationStatus × CxxrtlContainer :=
  c.fetchCell .simulationStatus .getSimulationStatus .rawSimulationStatus

def maxTimestamp (c : CxxrtlContainer) : Option CxxrtlTimestamp × CxxrtlContainer :=
  let (r,c) := c.rawSimulationStatus
  (r.map (·.latestTime),c)

def simulationStatus (c : CxxrtlContainer) : Option SimulationStatus × CxxrtlContainer :=
  let (r,c) := c.rawSimulationStatus
  (r.map fun s => match s.status with
    | .running => .running
    | .paused => .paused
    | .finished => .finished,c)

/-- The last lock section of query_variable, after both early returns. The loaded_signals
snapshot is read here: between its own read lock and this one only callbacks can run, and
none of them writes loaded_signals. -/
def queryCached (c : CxxrtlContainer) (var : VariableRef) (time : Nat)
    (maxTimestamp : CxxrtlTimestamp) (info : HashMap VariableRef CxxrtlItem) :
    Option QueryResult × CxxrtlContainer :=
  let loadedSignals := c.data.loadedSignals
  let (r,c) := c.fetchCell .queryResult
    (.queryInterval (.zero,maxTimestamp) true (some defaultReference) "base64(u32)" false)
    (.queryVariable maxTimestamp loadedSignals info)
  (some ((r.map fun _ => c.data.intervalQueryCache.query var time).getD default),c)

def queryVariable (c : CxxrtlContainer) (var : VariableRef) (time : Nat) :
    Option QueryResult × CxxrtlContainer :=
  match c.maxTimestamp with
  | (none,c) => (none,c)
  | (some maxTimestamp,c) =>
    match c.fetchAllItems with
    | (none,c) => (none,c)
    | (some info,c) => c.queryCached var time maxTimestamp info

/-- One iteration of load_variables' loop. -/
def loadVariable (data : CxxrtlData) (varref : VariableRef) : CxxrtlData :=
  if varref∉data.signalIndexMap then
    {data with signalIndexMap := data.signalIndexMap.insert varref data.loadedSignals.length,
               loadedSignals := data.loadedSignals++[varref]}
  else data

def loadVariables (c : CxxrtlContainer) (vars : List VariableRef) : CxxrtlContainer :=
  let data := vars.foldl loadVariable c.data
  ⟨c.commandChannel.runCommand
    (.referenceItems defaultReference (data.loadedSignals.map fun s => [s.cxxrtlRepr]))
    .loadVariables,data⟩

/-- The run_simulation target unpause computes from the status it read. -/
def unpauseDuration (s : Option CxxrtlSimulationStatus) : CxxrtlTimestamp :=
  (s.map fun s => CxxrtlTimestamp.fromFemtoseconds (s.latestTime.asFemtoseconds+100000000)).getD
    (.fromFemtoseconds 100000000)

/-- The second half of unpause, after the lock taken by raw_simulation_status is released. -/
def sendRunSimulation (c : CxxrtlContainer) (duration : CxxrtlTimestamp) : CxxrtlContainer :=
  c.runCommand (.runSimulation (some duration) true) .unpause

def unpause (c : CxxrtlContainer) : CxxrtlContainer :=
  let (s,c) := c.rawSimulationStatus
  c.sendRunSimulation (unpauseDuration s)

def pause (c : CxxrtlContainer) : CxxrtlContainer :=
  c.runCommand .pauseSimulation .pause

/-- Modelled from the spec: the worker (CxxrtlWorker in cxxrtl/io_worker.rs, not in the source
given) on one response: the oldest waiting callback consumes it, whatever its variant; a
response with no callback waiting is dropped. -/
def respond (c : CxxrtlContainer) (response : CommandResponse) : CxxrtlContainer :=
  match c.commandChannel.callbackQueue with
  | [] => c
  | f::rest => ⟨⟨c.commandChannel.sent,rest⟩,f.run response c.data⟩

end CxxrtlContainer

end SurferCxxrtl
