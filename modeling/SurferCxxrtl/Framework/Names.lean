import Mathlib.Data.List.Basic

namespace SurferCxxrtl

/-- str::split with a char pattern: the pieces between the occurrences of c, never none. -/
def split (s : String) (c : Char) : List String := (s.data.splitOn c).map String.mk

/-- Modelled from the spec: slice join with one separator character, as the wire names
items (the cxxrtl_repr helpers of wave_container are not in the source given). -/
def join (l : List String) (c : Char) : String := ⟨[c].intercalate (l.map String.data)⟩

theorem split_ne_nil (s : String) (c : Char) : split s c≠[] := by
  simpa [split] using List.splitOnP_ne_nil _ s.data

theorem join_split (s : String) (c : Char) : join (split s c) c=s := by
  simp [split,join,List.map_map,Function.comp_def,List.intercalate_splitOn]

private theorem splitOn_append_sep (c : Char) (xs ys : List Char) :
    (xs++c::ys).splitOn c=xs.splitOn c++ys.splitOn c := by
  induction xs with
  | nil => simp [List.splitOn]
  | cons a xs ih =>
    have hne : xs.splitOn c≠[] := List.splitOnP_ne_nil _ _
    simp only [List.splitOn] at ih hne ⊢
    rw [List.cons_append,List.splitOnP_cons,List.splitOnP_cons,ih]
    split_ifs
    · rfl
    · obtain ⟨p,ps,hp⟩ := List.exists_cons_of_ne_nil hne
      simp [hp,List.modifyHead]

theorem split_of_not_mem {s : String} {c : Char} (h : c∉s.data) : split s c=[s] := by
  simp only [split,List.splitOn]
  rw [List.splitOnP_eq_single _ _ (by simpa using fun x hx (e : x=c) => h (e ▸ hx))]
  rfl

/-- Cutting at a separator the caller wrote splits the two sides on their own. -/
theorem split_append_sep (s t : String) (c : Char) :
    split (s++⟨[c]⟩++t) c=split s c++split t c := by
  simp [split,String.append,splitOn_append_sep]

private theorem not_mem_of_mem_splitOn (c : Char) (xs : List Char) : ∀ q∈xs.splitOn c,c∉q := by
  induction xs with
  | nil => simp
  | cons x xs ih =>
    simp only [List.splitOn] at ih ⊢
    rw [List.splitOnP_cons]
    split
    case isTrue =>
      rintro q (_|⟨_,hq⟩)
      · exact List.not_mem_nil c
      · exact ih q hq
    case isFalse hx =>
      obtain ⟨p,ps,e⟩ := List.exists_cons_of_ne_nil (List.splitOnP_ne_nil (· == c) xs)
      rw [e] at ih ⊢
      rintro q (_|⟨_,hq⟩)
      · exact List.not_mem_cons_of_ne_of_not_mem (fun h => hx (by simp [h])) (ih p (.head _))
      · exact ih q (.tail _ hq)

/-- No piece of a split holds the separator. -/
theorem not_mem_of_mem_split {s p : String} {c : Char} (h : p∈split s c) : c∉p.data := by
  obtain ⟨q,hq,rfl⟩ := List.mem_map.1 h
  exact not_mem_of_mem_splitOn c s.data q hq

/-- Mirrors wave_container's ScopeRef; its ScopeId is None on every scope this container
builds, and equality compares the segments only. -/
structure ScopeRef where
  strs : List String
  deriving DecidableEq, Repr

/-- Modelled from the spec: ScopeRef::from_strs keeps the given segments in order. -/
def ScopeRef.fromStrs (s : List String) : ScopeRef := ⟨s⟩

/-- Modelled from the spec: the wire name of a scope, its segments joined by spaces. -/
def ScopeRef.cxxrtlRepr (s : ScopeRef) : String := join s.strs ' '

/-- Mirrors wave_container's VariableRef; its VarId is None on every variable built here. -/
structure VariableRef where
  path : ScopeRef
  name : String
  deriving DecidableEq, Repr

/-- Modelled from the spec: the wire name of an item, scope segments and leaf name joined
by spaces. -/
def VariableRef.cxxrtlRepr (v : VariableRef) : String := join (v.path.strs++[v.name]) ' '

end SurferCxxrtl
