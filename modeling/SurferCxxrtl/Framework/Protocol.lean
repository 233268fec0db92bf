import Mathlib.Data.List.AList
import SurferCxxrtl.Framework.Names

namespace SurferCxxrtl

/-- A Rust HashMap as an association list with distinct keys; iteration follows the list. -/
abbrev HashMap (K V : Type) := AList fun _ : K => V

/-- FromIterator for HashMap: insert the pairs in order, a later key replacing an earlier. -/
def HashMap.collect {K V : Type} [DecidableEq K] (l : List (K × V)) : HashMap K V :=
  l.foldl (fun m p => m.insert p.1 p.2) ∅

section Collect

variable {K V : Type} [DecidableEq K]

theorem HashMap.foldl_insert_lookup_of_not_mem (l : List (K × V)) (m : HashMap K V) (k : K)
    (hk : k∉l.map Prod.fst) :
    (l.foldl (fun m p => m.insert p.1 p.2) m).lookup k=m.lookup k := by
  induction l generalizing m with
  | nil => rfl
  | cons p l ih =>
    simp only [List.map_cons,List.mem_cons,not_or] at hk
    rw [List.foldl_cons,ih _ hk.2,AList.lookup_insert_ne hk.1]

/-- Inserting pairs with fresh, distinct keys adds one entry each, and each key keeps its
value. -/
theorem HashMap.foldl_insert_of_nodup (l : List (K × V)) (m : HashMap K V)
    (hl : (l.map Prod.fst).Nodup) (hm : ∀ p∈l,p.1∉m) :
    (l.foldl (fun m p => m.insert p.1 p.2) m).entries.length=m.entries.length+l.length ∧
      ∀ p∈l,(l.foldl (fun m p => m.insert p.1 p.2) m).lookup p.1=some p.2 := by
  induction l generalizing m with
  | nil => simp
  | cons p l ih =>
    simp only [List.map_cons,List.nodup_cons] at hl
    have hm' : ∀ q∈l,q.1∉m.insert p.1 p.2 := fun q hq => by
      rw [AList.mem_insert,not_or]
      exact ⟨fun e => hl.1 (e ▸ List.mem_map_of_mem _ hq),hm q (by simp [hq])⟩
    obtain ⟨h1,h2⟩ := ih _ hl.2 hm'
    refine ⟨by rw [List.foldl_cons,h1,AList.insert_entries_of_neg (hm p (by simp))]; simp; omega,?_⟩
    intro q hq
    rcases List.mem_cons.1 hq with rfl | hq
    · rw [List.foldl_cons,HashMap.foldl_insert_lookup_of_not_mem _ _ _ hl.1,AList.lookup_insert]
    · exact h2 q hq

theorem HashMap.collect_of_nodup (l : List (K × V)) (hl : (l.map Prod.fst).Nodup) :
    (HashMap.collect l).entries.length=l.length ∧ ∀ p∈l,(HashMap.collect l).lookup p.1=some p.2 := by
  simpa using HashMap.foldl_insert_of_nodup l ∅ hl (by simp)

theorem HashMap.mem_foldl_insert (l : List (K × V)) (m : HashMap K V) (k : K) :
    k∈l.foldl (fun m p => m.insert p.1 p.2) m ↔ k∈m ∨ k∈l.map Prod.fst := by
  induction l generalizing m with
  | nil => simp
  | cons p l ih => simp [ih,AList.mem_insert,or_assoc,or_left_comm]

theorem HashMap.mem_collect {l : List (K × V)} {k : K} : k∈HashMap.collect l ↔ k∈l.map Prod.fst := by
  simpa [HashMap.collect] using HashMap.mem_foldl_insert l ∅ k

end Collect

structure CxxrtlScope where
  deriving DecidableEq, Repr

structure CxxrtlItem where
  width : UInt32
  deriving DecidableEq, Repr

/-- Modelled from the spec: CxxrtlTimestamp (timestamp.rs, not in the source given) is an
arbitrary-precision count of femtoseconds. -/
structure CxxrtlTimestamp where
  fromFemtoseconds ::
  asFemtoseconds : Nat
  deriving DecidableEq, Repr

def CxxrtlTimestamp.zero : CxxrtlTimestamp := ⟨0⟩

/-- Mirrors sc_message's SimulationStatusType, by the variants matched here. -/
inductive SimulationStatusType
  | running
  | paused
  | finished
  deriving DecidableEq, Repr

structure CxxrtlSimulationStatus where
  status : SimulationStatusType
  latestTime : CxxrtlTimestamp
  deriving DecidableEq, Repr

/-- Modelled from the spec: one sample of an interval query, its base64(u32) item values
taken decoded, one value per referenced item in reference order. -/
structure CxxrtlSample where
  time : CxxrtlTimestamp
  itemValues : List Nat
  deriving DecidableEq, Repr

def defaultReference : String := "ALL_VARIABLES"

/-- The commands this container sends; run_simulation's until_diagnostics is always empty
here and is left out. -/
inductive CxxrtlCommand
  | listScopes (scope : Option String)
  | listItems (scope : Option String)
  | referenceItems (reference : String) (items : List (List String))
  | queryInterval (interval : CxxrtlTimestamp × CxxrtlTimestamp) (collapse : Bool)
      (items : Option String) (itemValuesEncoding : String) (diagnostics : Bool)
  | getSimulationStatus
  | runSimulation (untilTime : Option CxxrtlTimestamp) (sampleItemValues : Bool)
  | pauseSimulation
  deriving DecidableEq

/-- Mirrors sc_message's CommandResponse: one variant for each command. -/
inductive CommandResponse
  | listScopes (scopes : HashMap String CxxrtlScope)
  | listItems (items : HashMap String CxxrtlItem)
  | referenceItems
  | queryInterval (samples : List CxxrtlSample)
  | getSimulationStatus (status : CxxrtlSimulationStatus)
  | runSimulation
  | pauseSimulation (time : CxxrtlTimestamp)
  deriving DecidableEq

end SurferCxxrtl
