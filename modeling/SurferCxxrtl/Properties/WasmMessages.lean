import SurferCxxrtl.Wasm.Api

namespace SurferCxxrtl.WasmApi

variable {S E Other : Type}

/-- The message a push appends to MESSAGE_QUEUE, if any. -/
def Push.message? (decode : String → Option (Message Other)) (p : Push S E Other) :
    Option (Message Other) :=
  ((p.apply decode WasmQueues.empty).messageQueue).head?

/-- The callback a push appends to QUERY_QUEUE, if any. -/
def Push.callback? : Push S E Other → Option (Callback S E)
  | .idOfName function executed | .performQuery function executed => some ⟨function,executed⟩
  | _ => none

/-- Each push appends to the end of MESSAGE_QUEUE at most its one message, and to the end of
QUERY_QUEUE at most its one callback. -/
theorem Push.apply_queues (decode : String → Option (Message Other)) (q : WasmQueues S E Other)
    (p : Push S E Other) :
    (p.apply decode q).messageQueue=q.messageQueue++(p.message? decode).toList ∧
      (p.apply decode q).queryQueue=q.queryQueue++p.callback?.toList := by
  cases p
  case injectMessage message =>
    simp only [message?,apply,WasmQueues.injectMessage]
    cases decode message <;> simp [WasmQueues.push,WasmQueues.empty,callback?]
  case drawTextArrow id fromId fromTime toId toTime text =>
    simp only [message?,apply,WasmQueues.drawTextArrow]
    cases fromId <;> cases toId <;> simp [WasmQueues.push,WasmQueues.empty,callback?]
  all_goals simp [message?,apply,callback?,WasmQueues.startCxxrtl,WasmQueues.startWcp,
    WasmQueues.idOfName,WasmQueues.performQuery,WasmQueues.push,WasmQueues.pushBack,
    WasmQueues.empty]

/-- Pushes keep both queues in push order. -/
theorem WasmQueues.pushAll_queues (decode : String → Option (Message Other))
    (q : WasmQueues S E Other) (ps : List (Push S E Other)) :
    (q.pushAll decode ps).messageQueue=q.messageQueue++ps.filterMap (·.message? decode) ∧
      (q.pushAll decode ps).queryQueue=q.queryQueue++ps.filterMap Push.callback? := by
  induction ps using List.reverseRecOn with
  | nil => simp [pushAll]
  | append_singleton ps p ih =>
    obtain ⟨hm,hq⟩ := Push.apply_queues decode (q.pushAll decode ps) p
    rw [pushAll,List.foldl_concat,← pushAll,hm,hq,ih.1,ih.2]
    cases h1 : p.message? decode <;> cases h2 : p.callback? <;> simp [h1,h2]

/-- The message loop passes the queue to update from its last element to its first and
leaves it empty. -/
theorem drainMessages_eq (update : S → Message Other → S) (s : S) (queue : List (Message Other)) :
    drainMessages update s queue=(queue.reverse.foldl update s,[]) := by
  induction queue using List.reverseRecOn generalizing s with
  | nil => simp [drainMessages]
  | append_singleton queue msg ih =>
    rw [drainMessages]
    split
    case h_1 popped => simp at popped
    case h_2 m popped =>
      obtain rfl : msg=m := by simpa using popped
      rw [List.dropLast_concat,ih,List.reverse_concat,List.foldl_cons]

/-- The query loop runs the callbacks from first to last, each followed by its executed
signal, and leaves the queue empty. -/
theorem drainQueries_eq (s : S) (events : List (QueryEvent E)) (queue : List (Callback S E)) :
    drainQueries s events queue=
      (events++queue.flatMap fun cb => [.stored (cb.function s),.executed cb.executed],[]) := by
  induction queue generalizing events with
  | nil => simp [drainQueries]
  | cons cb rest ih => simp [drainQueries,ih]

/-- After any sequence of pushes, handle_wasm_external_messages passes every queued message
to update exactly once, the last pushed first; then it runs every queued callback exactly
once, in push order, on the resulting state, each followed by the signal on its executed
channel; both queues end empty. -/
theorem handle_wasm_external_messages_drains (decode : String → Option (Message Other))
    (update : S → Message Other → S) (s : S) (q : WasmQueues S E Other)
    (ps : List (Push S E Other)) :
    let messages := q.messageQueue++ps.filterMap (·.message? decode)
    let callbacks := q.queryQueue++ps.filterMap Push.callback?
    (q.pushAll decode ps).messageQueue=messages ∧ (q.pushAll decode ps).queryQueue=callbacks ∧
    handleWasmExternalMessages update s (q.pushAll decode ps)=
      (messages.reverse.foldl update s,⟨[],[]⟩,callbacks.flatMap fun cb =>
        [.stored (cb.function (messages.reverse.foldl update s)),.executed cb.executed]) := by
  intro messages callbacks
  obtain ⟨hm,hq⟩ := WasmQueues.pushAll_queues decode q ps
  refine ⟨hm,hq,?_⟩
  simp only [handleWasmExternalMessages,drainMessages_eq,drainQueries_eq,hm,hq,List.nil_append]

/-- The queues after start_cxxrtl, perform_query, start_wcp and perform_query again, each query
storing its own number. -/
def setupsAndQueries : WasmQueues (List (Message Empty)) Nat Empty :=
  WasmQueues.empty.pushAll (fun _ => none)
    [.startCxxrtl,.performQuery (fun _ => 1) 1,.startWcp,.performQuery (fun _ => 2) 2]

/-- With update recording what it is passed, MESSAGE_QUEUE holds the two setups in push order,
yet the call hands update the WCP setup first, while in the same call the two queries, pushed at
the back of QUERY_QUEUE the same way, run in push order. -/
theorem handle_updates_last_pushed_first :
    setupsAndQueries.messageQueue=[.setupCxxrtl .mailbox,.setupChannelWCP] ∧
    (handleWasmExternalMessages (fun log m => log++[m]) [] setupsAndQueries).1=
      [.setupChannelWCP,.setupCxxrtl .mailbox] ∧
    (handleWasmExternalMessages (fun log m => log++[m]) [] setupsAndQueries).2.2=
      [.stored 1,.executed 1,.stored 2,.executed 2] := by
  refine ⟨rfl,?_,?_⟩ <;> rw [handleWasmExternalMessages,drainMessages_eq] <;> rfl

end SurferCxxrtl.WasmApi
