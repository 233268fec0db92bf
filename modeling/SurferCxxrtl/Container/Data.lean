import SurferCxxrtl.Framework.Protocol
import SurferCxxrtl.Framework.CachedData

namespace SurferCxxrtl

/-- Modelled from the spec: the point-query answer of QueryContainer (not in the source
given), the time and value of the sample in force, if any. -/
structure QueryResult where
  current : Option (CxxrtlTimestamp × Nat)
  deriving DecidableEq, Repr

instance : Inhabited QueryResult := ⟨⟨none⟩⟩

/-- Modelled from the spec: QueryContainer (query_container.rs, not in the source given)
keeps the batch populate received and answers from the latest sample at or before a time. -/
structure QueryContainer where
  signals : List VariableRef
  items : HashMap VariableRef CxxrtlItem
  samples : List CxxrtlSample
  deriving DecidableEq

namespace QueryContainer

def empty : QueryContainer := ⟨[],∅,[]⟩

def populate (_q : QueryContainer) (signals : List VariableRef)
    (items : HashMap VariableRef CxxrtlItem) (samples : List CxxrtlSample) : QueryContainer :=
  ⟨signals,items,samples⟩

def query (q : QueryContainer) (var : VariableRef) (time : Nat) : QueryResult :=
  ⟨((q.samples.filter fun s => s.time.asFemtoseconds ≤ time).getLast?).bind fun s =>
    (s.itemValues.get? (q.signals.indexOf var)).map fun v => (s.time,v)⟩

end QueryContainer

/-- The shared cache state; msg_channel only carries redraw hints and is left out. -/
structure CxxrtlData where
  scopesCache : CachedData (HashMap ScopeRef CxxrtlScope)
  moduleItemCache : HashMap ScopeRef (CachedData (HashMap VariableRef CxxrtlItem))
  allItemsCache : CachedData (HashMap VariableRef CxxrtlItem)
  queryResult : CachedData CxxrtlTimestamp
  intervalQueryCache : QueryContainer
  loadedSignals : List VariableRef
  signalIndexMap : HashMap VariableRef Nat
  simulationStatus : CachedData CxxrtlSimulationStatus
  deriving DecidableEq

/-- The cache cells of CxxrtlData; a module's cell is its module_item_cache entry, read as
entry(scope).or_insert(CachedData::empty()) reads it. -/
inductive Cell
  | scopes
  | allItems
  | moduleItems (scope : ScopeRef)
  | queryResult
  | simulationStatus
  deriving DecidableEq

@[reducible] def Cell.Payload : Cell → Type
  | .scopes => HashMap ScopeRef CxxrtlScope
  | .allItems => HashMap VariableRef CxxrtlItem
  | .moduleItems _ => HashMap VariableRef CxxrtlItem
  | .queryResult => CxxrtlTimestamp
  | .simulationStatus => CxxrtlSimulationStatus

namespace Cell

def cache : (X : Cell) → CxxrtlData → CachedData X.Payload
  | .scopes,d => d.scopesCache
  | .allItems,d => d.allItemsCache
  | .moduleItems s,d => (d.moduleItemCache.lookup s).getD .empty
  | .queryResult,d => d.queryResult
  | .simulationStatus,d => d.simulationStatus

def set : (X : Cell) → CxxrtlData → CachedData X.Payload → CxxrtlData
  | .scopes,d,x => {d with scopesCache := x}
  | .allItems,d,x => {d with allItemsCache := x}
  | .moduleItems s,d,x => {d with moduleItemCache := d.moduleItemCache.insert s x}
  | .queryResult,d,x => {d with queryResult := x}
  | .simulationStatus,d,x => {d with simulationStatus := x}

variable (X Y : Cell) (d : CxxrtlData)

@[simp] theorem cache_set_self (x : CachedData X.Payload) : X.cache (X.set d x)=x := by
  cases X <;> simp [cache,set]

@[simp] theorem cache_set_ne {X Y : Cell} (h : X≠Y) (x : CachedData Y.Payload) :
    X.cache (Y.set d x)=X.cache d := by
  cases X <;> cases Y <;> simp_all [cache,set,AList.lookup_insert_ne]

@[simp] theorem set_intervalQueryCache (x : CachedData X.Payload) :
    (X.set d x).intervalQueryCache=d.intervalQueryCache := by cases X <;> rfl
@[simp] theorem set_loadedSignals (x : CachedData X.Payload) :
    (X.set d x).loadedSignals=d.loadedSignals := by cases X <;> rfl
@[simp] theorem set_signalIndexMap (x : CachedData X.Payload) :
    (X.set d x).signalIndexMap=d.signalIndexMap := by cases X <;> rfl

end Cell

namespace CxxrtlData

def invalidateQueryResult (d : CxxrtlData) : CxxrtlData :=
  Cell.queryResult.set d d.queryResult.makeUncached

def onSimulationStatusUpdate (d : CxxrtlData) (status : CxxrtlSimulationStatus) : CxxrtlData :=
  (Cell.simulationStatus.set d (.filled status)).invalidateQueryResult

end CxxrtlData

/-- The decoding inside get_scopes' callback: every scope name split at its spaces. -/
def scopesOfResponse (scopes : HashMap String CxxrtlScope) : HashMap ScopeRef CxxrtlScope :=
  HashMap.collect (scopes.entries.map fun e => (⟨split e.1 ' '⟩,e.2))

/-- The filter_map closure of item_list_to_hash_map; none is the logged empty-split error. -/
def itemEntry (k : String) (v : CxxrtlItem) : Option (VariableRef × CxxrtlItem) :=
  let sp := split k ' '
  if h : sp=[] then none
  else some (⟨ScopeRef.fromStrs (sp.take (sp.length-1)),sp.getLast h⟩,v)

def itemListToHashMap (items : HashMap String CxxrtlItem) : HashMap VariableRef CxxrtlItem :=
  HashMap.collect (items.entries.filterMap fun e => itemEntry e.1 e.2)

/-- The closures run_command registers, named by the method that registers them, with what
they capture; fetch_item and fetch_all_items register the same closure. -/
inductive Callback
  | getScopes
  | fetchAllItems
  | fetchItemsInModule (scope : ScopeRef)
  | queryVariable (maxTimestamp : CxxrtlTimestamp) (loadedSignals : List VariableRef)
      (info : HashMap VariableRef CxxrtlItem)
  | loadVariables
  | rawSimulationStatus
  | unpause
  | pause
  deriving DecidableEq

/-- A callback applied to its response under the write lock. The last case is
expect_response! on a response of another variant: logged, nothing changed. -/
def Callback.run : Callback → CommandResponse → CxxrtlData → CxxrtlData
  | .getScopes,.listScopes scopes,d => Cell.scopes.set d (.filled (scopesOfResponse scopes))
  | .fetchAllItems,.listItems items,d => Cell.allItems.set d (.filled (itemListToHashMap items))
  | .fetchItemsInModule scope,.listItems items,d =>
      (Cell.moduleItems scope).set d (.filled (itemListToHashMap items))
  | .queryVariable maxTimestamp loadedSignals info,.queryInterval samples,d =>
      {Cell.queryResult.set d (.filled maxTimestamp) with
        intervalQueryCache := d.intervalQueryCache.populate loadedSignals info samples}
  | .loadVariables,_,d => d.invalidateQueryResult
  | .rawSimulationStatus,.getSimulationStatus status,d => d.onSimulationStatusUpdate status
  | .unpause,_,d => Cell.simulationStatus.set d (.filled ⟨.running,.zero⟩)
  | .pause,.pauseSimulation time,d => d.onSimulationStatusUpdate ⟨.paused,time⟩
  | _,_,d => d

/-- The cell whose refresh a callback completes. -/
def Callback.cell : Callback → Option Cell
  | .getScopes => some .scopes
  | .fetchAllItems => some .allItems
  | .fetchItemsInModule scope => some (.moduleItems scope)
  | .queryVariable .. => some .queryResult
  | .rawSimulationStatus => some .simulationStatus
  | .loadVariables | .unpause | .pause => none

end SurferCxxrtl
