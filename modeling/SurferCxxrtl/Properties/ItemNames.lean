import SurferCxxrtl.Container.System

namespace SurferCxxrtl

/-- The key an item name decodes to by the wire convention: its last space-separated
segment as the name, the segments before it as the path. -/
def itemKey (k : String) : VariableRef :=
  ⟨.fromStrs (split k ' ').dropLast,(split k ' ').getLast (split_ne_nil k ' ')⟩

theorem itemEntry_eq (k : String) (v : CxxrtlItem) : itemEntry k v=some (itemKey k,v) := by
  simp [itemEntry,itemKey,split_ne_nil,List.dropLast_eq_take]

theorem join_itemKey (k : String) : join ((itemKey k).path.strs++[(itemKey k).name]) ' '=k := by
  simp [itemKey,ScopeRef.fromStrs,List.dropLast_append_getLast,join_split]

theorem itemKey_injective : Function.Injective itemKey := fun a b h => by
  rw [← join_itemKey a,← join_itemKey b,h]

theorem itemListToHashMap_eq (items : HashMap String CxxrtlItem) :
    itemListToHashMap items=HashMap.collect (items.entries.map fun e => (itemKey e.1,e.2)) := by
  simp only [itemListToHashMap,itemEntry_eq]
  rw [← List.filterMap_eq_map]
  rfl

/-- The decoded name and every segment of the decoded path are free of spaces. -/
theorem itemKey_segments (k : String) :
    ' '∉(itemKey k).name.data ∧ ∀ seg∈(itemKey k).path.strs,' '∉seg.data :=
  ⟨not_mem_of_mem_split (List.getLast_mem _),
    fun _ h => not_mem_of_mem_split (List.dropLast_subset _ h)⟩

/-- item_list_to_hash_map never reaches its empty-split branch, decodes every name to a key
whose name and path segments hold no space and join back to it, and so keeps every item under
a key of its own. -/
theorem item_list_to_hash_map_keeps_items (items : HashMap String CxxrtlItem) :
    (∀ k v,itemEntry k v=some (itemKey k,v)) ∧
    (∀ k,' '∉(itemKey k).name.data ∧ ∀ seg∈(itemKey k).path.strs,' '∉seg.data) ∧
    (∀ k,join ((itemKey k).path.strs++[(itemKey k).name]) ' '=k) ∧
    (itemListToHashMap items).entries.length=items.entries.length ∧
    ∀ k v,items.lookup k=some v → (itemListToHashMap items).lookup (itemKey k)=some v := by
  have hn : ((items.entries.map fun e => (itemKey e.1,e.2)).map Prod.fst).Nodup := by
    simpa [List.map_map,Function.comp_def,AList.keys,List.keys] using
      items.keys_nodup.map itemKey_injective
  obtain ⟨hl,hv⟩ := HashMap.collect_of_nodup _ hn
  refine ⟨itemEntry_eq,itemKey_segments,join_itemKey,by simpa [itemListToHashMap_eq] using hl,fun k v h => ?_⟩
  rw [itemListToHashMap_eq]
  exact hv (itemKey k,v) (List.mem_map.2 ⟨⟨k,v⟩,AList.mem_lookup_iff.1 h,rfl⟩)

/-- Below the root, an item named by the wire convention decodes to the path get_scopes
decodes from its scope name. -/
theorem itemKey_scoped (s l : String) (hl : ' '∉l.data) :
    itemKey (s++" "++l)=⟨⟨split s ' '⟩,l⟩ := by
  have h : split (s++" "++l) ' '=split s ' '++[l] := by
    rw [show s++" "++l=s++⟨[' ']⟩++l from rfl,split_append_sep,split_of_not_mem hl]
  simp [itemKey,h,ScopeRef.fromStrs]

/-- At the root the two decoders part: get_scopes turns "" into the one-segment path [""],
while root_modules and the keys of root items use the empty path, so module_exists misses
the root scope even though list_scopes reported it. Below the root, an item named by the wire
convention decodes to the path get_scopes decodes from its scope name. -/
theorem root_scope_decodes_apart :
    ((Sys.init.run [.call .modules,.respond (.listScopes
      ((∅ : HashMap String CxxrtlScope).insert "" ⟨⟩))]).container.rootModules).1=[⟨[]⟩] ∧
    ((Sys.init.run [.call .modules,.respond (.listScopes
      ((∅ : HashMap String CxxrtlScope).insert "" ⟨⟩))]).container.moduleExists ⟨[]⟩).1=false ∧
    (scopesOfResponse ((∅ : HashMap String CxxrtlScope).insert "" ⟨⟩)).keys=[⟨[""]⟩] ∧
    (itemKey "clk").path=⟨[]⟩ ∧
    ∀ s l,' '∉l.data → itemKey (s++" "++l)=⟨⟨split s ' '⟩,l⟩ :=
  ⟨by decide,by decide,by decide,by decide,itemKey_scoped⟩

end SurferCxxrtl
