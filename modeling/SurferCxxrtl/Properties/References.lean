import SurferCxxrtl.Properties.LoadedSignals

namespace SurferCxxrtl

/-- The items of a reference_items command for DEFAULT_REFERENCE. -/
def CxxrtlCommand.defaultReferenceItems : CxxrtlCommand → Option (List (List String))
  | .referenceItems r items => if r=defaultReference then some items else none
  | _ => none

/-- The items of the most recent reference_items command for DEFAULT_REFERENCE. -/
def lastReference (sent : List (CxxrtlCommand × Callback)) : Option (List (List String)) :=
  (sent.filterMap (·.1.defaultReferenceItems)).getLast?

theorem lastReference_concat (l : List (CxxrtlCommand × Callback)) (e : CxxrtlCommand × Callback) :
    lastReference (l++[e])=e.1.defaultReferenceItems.or (lastReference l) := by
  cases h : e.1.defaultReferenceItems <;> simp [lastReference,h]

theorem lastReference_concat_of_none {l : List (CxxrtlCommand × Callback)} {e : CxxrtlCommand × Callback}
    (h : e.1.defaultReferenceItems=none) : lastReference (l++[e])=lastReference l := by
  rw [lastReference_concat,h,Option.none_or]

/-- What a section sends: load_variables' reference_items of the table it leaves, or, with
the table untouched, nothing or one command that is no reference_items; when that command's
callback is query_variable's, the command is its query_interval and the callback's
snapshot is the table. -/
theorem Section.sent_cases (sec : Section) (x : CxxrtlContainer) :
    (sec.apply x).commandChannel.sent=x.commandChannel.sent++[(.referenceItems defaultReference
      ((sec.apply x).data.loadedSignals.map fun v => [v.cxxrtlRepr]),.loadVariables)] ∨
    (sec.apply x).data.loadedSignals=x.data.loadedSignals ∧
    ((sec.apply x).commandChannel.sent=x.commandChannel.sent ∨
     ∃ command f,(sec.apply x).commandChannel.sent=x.commandChannel.sent++[(command,f)] ∧
      command.defaultReferenceItems=none ∧ ∀ t L info,f=.queryVariable t L info →
        command=.queryInterval (.zero,t) true (some defaultReference) "base64(u32)" false ∧
          L=x.data.loadedSignals) := by
  cases sec
  case loadVariables => exact .inl rfl
  all_goals refine .inr ⟨((Section.signals_apply _ x).resolve_left (by simp)).1,?_⟩
  case respond r =>
    refine .inl ?_
    simp only [Section.apply,CxxrtlContainer.respond]
    split <;> rfl
  case skip => exact .inl rfl
  case sendRunSimulation | pause => exact .inr ⟨_,_,rfl,rfl,by simp⟩
  case queryCached var time t info =>
    simp only [Section.apply,CxxrtlContainer.queryCached,CxxrtlContainer.fetchCell_eq]
    split_ifs
    · exact .inr ⟨_,_,rfl,rfl,by rintro _ _ _ ⟨⟩; exact ⟨rfl,rfl⟩⟩
    · exact .inl rfl
  all_goals
    simp only [Section.apply,CxxrtlContainer.getScopes,CxxrtlContainer.fetchAllItems,
      CxxrtlContainer.fetchItemsInModule,CxxrtlContainer.rawSimulationStatus,
      CxxrtlContainer.fetchCell_eq]
    split_ifs
    · exact .inr ⟨_,_,rfl,rfl,by simp⟩
    · exact .inl rfl

/-- What the simulator was last told DEFAULT_REFERENCE lists, given the table it should
list: the table's reprs, or nothing when no reference was sent and the table is empty. -/
def ReferenceAgrees (sent : List (CxxrtlCommand × Callback)) (signals : List VariableRef) : Prop :=
  lastReference sent=some (signals.map fun v => [v.cxxrtlRepr]) ∨
    (lastReference sent=none ∧ signals=[])

/-- Every query callback in the log is paired with its query_interval command, and its
snapshot agrees with the last reference_items before it. -/
def QueryInv (sent : List (CxxrtlCommand × Callback)) : Prop :=
  ∀ pre post command t L info,sent=pre++(command,Callback.queryVariable t L info)::post →
    command=.queryInterval (.zero,t) true (some defaultReference) "base64(u32)" false ∧
      ReferenceAgrees pre L

theorem eq_concat_of_append_cons {α : Type} {l pre post : List α} {a e : α}
    (h : l++[e]=pre++a::post) : (pre=l ∧ a=e) ∨ ∃ p,post=p++[e] ∧ l=pre++a::p := by
  rcases List.eq_nil_or_concat post with rfl | ⟨p,b,rfl⟩
  · obtain ⟨h1,h2⟩ := List.append_inj' h rfl
    exact .inl ⟨h1.symm,(List.singleton_inj.1 h2).symm⟩
  · have h' : l++[e]=(pre++a::p)++[b] := by simpa using h
    obtain ⟨h1,h2⟩ := List.append_inj' h' rfl
    obtain rfl := List.singleton_inj.1 h2
    exact .inr ⟨p,by simp,h1⟩

theorem queryInv_concat {sent : List (CxxrtlCommand × Callback)} (hq : QueryInv sent)
    (e : CxxrtlCommand × Callback) (hnew : ∀ t L info,e.2=.queryVariable t L info →
      e.1=.queryInterval (.zero,t) true (some defaultReference) "base64(u32)" false ∧
        ReferenceAgrees sent L) : QueryInv (sent++[e]) := by
  intro pre post command t L info h
  rcases eq_concat_of_append_cons h with ⟨rfl,rfl⟩ | ⟨p,-,hp⟩
  · exact hnew t L info rfl
  · exact hq pre p command t L info hp

theorem references_step (s : Sys) (a : Action) (hr : ReferenceAgrees s.sent s.data.loadedSignals)
    (hq : QueryInv s.sent) :
    ReferenceAgrees (s.step a).sent (s.step a).data.loadedSignals ∧ QueryInv (s.step a).sent := by
  rw [Sys.sent,Sys.data,Sys.step_container]
  rcases (s.section a).sent_cases s.container with he | ⟨hl,he | ⟨c,f,he,hc,hf⟩⟩
  · rw [he,ReferenceAgrees,lastReference_concat]
    exact ⟨.inl (by simp [CxxrtlCommand.defaultReferenceItems]),queryInv_concat hq _ (by simp)⟩
  · rw [he,hl]
    exact ⟨hr,hq⟩
  · rw [he,hl,ReferenceAgrees,lastReference_concat_of_none hc]
    refine ⟨hr,queryInv_concat hq _ fun t L info h => ?_⟩
    obtain ⟨h1,rfl⟩ := hf t L info h
    exact ⟨h1,hr⟩

theorem references_run (run : List Action) :
    ReferenceAgrees (Sys.init.run run).sent (Sys.init.run run).data.loadedSignals ∧
      QueryInv (Sys.init.run run).sent := by
  induction run using List.reverseRecOn with
  | nil => exact ⟨.inr ⟨rfl,rfl⟩,fun pre post c t L info h => by simp [Sys.sent,Sys.init,CxxrtlContainer.new] at h⟩
  | append_singleton run a ih =>
    rw [Sys.run_concat]
    exact references_step _ a ih.1 ih.2

/-- query_variable sends query_interval before any reference_items when nothing is loaded:
its callback's snapshot is empty and no reference was defined. -/
theorem query_interval_before_any_reference :
    (Sys.init.run [.call .maxTimestamp,.respond (.getSimulationStatus ⟨.paused,.zero⟩),
      .call (.variableMeta ⟨⟨[]⟩,"clk"⟩),.respond (.listItems ∅),
      .call (.queryVariable ⟨⟨[]⟩,"clk"⟩ 0),.resume,.resume]).sent=
    [(.getSimulationStatus,.rawSimulationStatus),(.listItems none,.fetchAllItems),
      (.queryInterval (.zero,.zero) true (some defaultReference) "base64(u32)" false,
        .queryVariable .zero [] ∅)] :=
  rfl

/-- Every query_interval query_variable sends covers [0, t] of DEFAULT_REFERENCE, and the
most recent reference_items for DEFAULT_REFERENCE before it lists its callback's
loaded_signals snapshot position by position, or none was sent and the snapshot is
empty. -/
theorem query_interval_follows_reference (run : List Action)
    (pre post : List (CxxrtlCommand × Callback)) (command : CxxrtlCommand) (t : CxxrtlTimestamp)
    (L : List VariableRef) (info : HashMap VariableRef CxxrtlItem)
    (h : (Sys.init.run run).sent=pre++(command,.queryVariable t L info)::post) :
    command=.queryInterval (.zero,t) true (some defaultReference) "base64(u32)" false ∧
      (lastReference pre=some (L.map fun v => [v.cxxrtlRepr]) ∨
        (lastReference pre=none ∧ L=[])) :=
  (references_run run).2 pre post command t L info h

theorem query_interval_follows_reference_clk :
    let run : List Action := [.call .maxTimestamp,.respond (.getSimulationStatus ⟨.paused,.zero⟩),
      .call (.variableMeta ⟨⟨[]⟩,"clk"⟩),.respond (.listItems ∅),
      .call (.loadVariables [⟨⟨[]⟩,"clk"⟩]),.respond .referenceItems,
      .call (.queryVariable ⟨⟨[]⟩,"clk"⟩ 0),.resume,.resume]
    let pre : List (CxxrtlCommand × Callback) := [(.getSimulationStatus,.rawSimulationStatus),
      (.listItems none,.fetchAllItems),(.referenceItems defaultReference [["clk"]],.loadVariables)]
    let L : List VariableRef := [⟨⟨[]⟩,"clk"⟩]
    (Sys.init.run run).sent=pre++[(.queryInterval (.zero,.zero) true (some defaultReference)
      "base64(u32)" false,.queryVariable .zero L ∅)] ∧
    (lastReference pre=some (L.map fun v => [v.cxxrtlRepr]) ∨ (lastReference pre=none ∧ L=[])) := by
  intro run pre L
  have h : (Sys.init.run run).sent=pre++[(.queryInterval (.zero,.zero) true (some defaultReference)
      "base64(u32)" false,.queryVariable .zero L ∅)] := rfl
  exact ⟨h,(query_interval_follows_reference run pre [] _ _ L ∅ h).2⟩

end SurferCxxrtl
