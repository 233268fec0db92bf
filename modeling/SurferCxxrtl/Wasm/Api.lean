import Mathlib.Data.List.Basic

namespace SurferCxxrtl.WasmApi

/-- Mirrors wave_source's CxxrtlKind by the variant this file builds. -/
inductive CxxrtlKind
  | mailbox
  deriving DecidableEq, Repr

/-- Mirrors graphics' Anchor by the variant this file builds. -/
inductive Anchor
  | center
  deriving DecidableEq, Repr

inductive Direction
  | east
  | west
  deriving DecidableEq, Repr

structure DisplayedItemRef where
  ref : Nat
  deriving DecidableEq, Repr

structure GraphicId where
  id : Nat
  deriving DecidableEq, Repr

structure GraphicsY where
  item : DisplayedItemRef
  anchor : Anchor
  deriving DecidableEq, Repr

structure GrPoint where
  x : Int
  y : GraphicsY
  deriving DecidableEq, Repr

/-- Mirrors graphics' Graphic by the variant this file builds; its from and to ends are
fromEnd and toEnd here. -/
inductive Graphic
  | textArrow (fromEnd : GrPoint × Direction) (toEnd : GrPoint × Direction) (text : String)
  deriving DecidableEq, Repr

/-- Mirrors crate::Message by the variants this file builds; every other variant, which only
inject_message's decoding can produce, is kept abstract. -/
inductive Message (Other : Type)
  | setupCxxrtl (kind : CxxrtlKind)
  | setupChannelWCP
  | addGraphic (id : GraphicId) (graphic : Graphic)
  | other (message : Other)
  deriving DecidableEq, Repr

/-- A queued query: the closure run on the state, whose effect is the value it stores in
the waiting caller's result cell, and the executed channel it signals afterwards. -/
structure Callback (S E : Type) where
  function : S → E
  executed : Nat

/-- What running a queued callback does outside the state. -/
inductive QueryEvent (E : Type)
  | stored (effect : E)
  | executed (channel : Nat)
  deriving DecidableEq, Repr

/-- MESSAGE_QUEUE, a Vec (push appends, pop takes the last), and QUERY_QUEUE, a VecDeque
(push_back appends, pop_front takes the first). -/
structure WasmQueues (S E Other : Type) where
  messageQueue : List (Message Other)
  queryQueue : List (Callback S E)

namespace WasmQueues

variable {S E Other : Type}

/-- The queues as lazy_static first builds them. -/
def empty : WasmQueues S E Other := ⟨[],[]⟩

def push (q : WasmQueues S E Other) (message : Message Other) : WasmQueues S E Other :=
  {q with messageQueue := q.messageQueue++[message]}

def pushBack (q : WasmQueues S E Other) (cb : Callback S E) : WasmQueues S E Other :=
  {q with queryQueue := q.queryQueue++[cb]}

/-- inject_message: a message serde_json decodes is pushed; one it does not is logged and
dropped. -/
def injectMessage (decode : String → Option (Message Other)) (q : WasmQueues S E Other)
    (message : String) : WasmQueues S E Other :=
  match decode message with
  | some message => q.push message
  | none => q

/-- id_of_name's push, with its closure (the lookup of the name among the displayed items)
and its executed channel. -/
def idOfName (q : WasmQueues S E Other) (function : S → E) (executed : Nat) :
    WasmQueues S E Other :=
  q.pushBack ⟨function,executed⟩

/-- perform_query's push, with its closure (the query, storing its result) and its executed
channel. -/
def performQuery (q : WasmQueues S E Other) (function : S → E) (executed : Nat) :
    WasmQueues S E Other :=
  q.pushBack ⟨function,executed⟩

/-- draw_text_arrow once its two id_of_name calls have returned: the arrow is pushed only when
both names were found. -/
def drawTextArrow (q : WasmQueues S E Other) (id : Nat) (fromId : Option Nat) (fromTime : Nat)
    (toId : Option Nat) (toTime : Nat) (text : String) : WasmQueues S E Other :=
  match fromId,toId with
  | some fromId,some toId =>
    q.push (.addGraphic ⟨id⟩ (.textArrow (⟨fromTime,⟨⟨fromId⟩,.center⟩⟩,.east)
      (⟨toTime,⟨⟨toId⟩,.center⟩⟩,.west) text))
  | _,_ => q

def startCxxrtl (q : WasmQueues S E Other) : WasmQueues S E Other :=
  q.push (.setupCxxrtl .mailbox)

def startWcp (q : WasmQueues S E Other) : WasmQueues S E Other :=
  q.push .setupChannelWCP

end WasmQueues

/-- The calls of this file that push onto the queues, with what each pushes from. -/
inductive Push (S E Other : Type)
  | injectMessage (message : String)
  | drawTextArrow (id : Nat) (fromId : Option Nat) (fromTime : Nat) (toId : Option Nat)
      (toTime : Nat) (text : String)
  | startCxxrtl
  | startWcp
  | idOfName (function : S → E) (executed : Nat)
  | performQuery (function : S → E) (executed : Nat)

def Push.apply {S E Other : Type} (decode : String → Option (Message Other))
    (q : WasmQueues S E Other) : Push S E Other → WasmQueues S E Other
  | .injectMessage message => q.injectMessage decode message
  | .drawTextArrow id fromId fromTime toId toTime text =>
    q.drawTextArrow id fromId fromTime toId toTime text
  | .startCxxrtl => q.startCxxrtl
  | .startWcp => q.startWcp
  | .idOfName function executed => q.idOfName function executed
  | .performQuery function executed => q.performQuery function executed

/-- The queues after a sequence of pushes, in the order they were made. -/
def WasmQueues.pushAll {S E Other : Type} (decode : String → Option (Message Other))
    (q : WasmQueues S E Other) (ps : List (Push S E Other)) : WasmQueues S E Other :=
  ps.foldl (Push.apply decode) q

section Handle

variable {S E Other : Type}

/-- The first loop of handle_wasm_external_messages: pop MESSAGE_QUEUE (its last element)
until it is empty, passing each message to State::update. -/
def drainMessages (update : S → Message Other → S) (s : S) (queue : List (Message Other)) :
    S × List (Message Other) :=
  match _popped : queue.getLast? with
  | none => (s,queue)
  | some msg => drainMessages update (update s msg) queue.dropLast
termination_by queue.length
decreasing_by
  obtain ⟨rest,rfl⟩ := List.getLast?_eq_some_iff.1 _popped
  simp

/-- The second loop: pop QUERY_QUEUE from the front until it is empty, running each callback
on the state and then signalling its executed channel. -/
def drainQueries (s : S) (events : List (QueryEvent E)) :
    List (Callback S E) → List (QueryEvent E) × List (Callback S E)
  | [] => (events,[])
  | cb::rest => drainQueries s (events++[.stored (cb.function s),.executed cb.executed]) rest

/-- State::handle_wasm_external_messages: the state after the messages, the queues after
both loops, and what the callbacks did, in order. -/
def handleWasmExternalMessages (update : S → Message Other → S) (s : S)
    (q : WasmQueues S E Other) : S × WasmQueues S E Other × List (QueryEvent E) :=
  let (s,messages) := drainMessages update s q.messageQueue
  let (events,queries) := drainQueries s [] q.queryQueue
  (s,⟨messages,queries⟩,events)

end Handle

end SurferCxxrtl.WasmApi
