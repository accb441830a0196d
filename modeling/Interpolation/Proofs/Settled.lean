import Interpolation.Proofs.Rereading

/-!
# What scanning may give that is not read back

A tree that comes from a text is canonical but for two things, and both are visible in it. A path may end in a
closing brace on its own, which blanks kept apart from the braces of its span. And a value may run into the
next one, since it stood last in the text that it was read from, or since it holds a comma that stood inside
quotes or parentheses that are not its own. A tree without the two is settled (`Interpolation.Tree.Settled`).

The conditions are put as conditions on all variables and all calls of the tree, at any depth. This file takes
them apart along the tree.
-/

namespace Interpolation

open Brace Nesting

/-- **A settled tree**: no path ends in a stray closing brace, and every call keeps its values apart. -/
structure Tree.Settled (tree : Tree) : Prop where
  /-- Paths do not run into the braces behind them. -/
  paths : ∀ path ∈ Tree.variables tree, ¬EndsStray path.toList
  /-- Values do not run into the ones behind them. -/
  calls : ∀ call ∈ Tree.calls tree, Slot.KeptApart call.slots

instance (tree : Tree) : Decidable tree.Settled :=
  decidable_of_iff ((∀ path ∈ Tree.variables tree, ¬EndsStray path.toList) ∧
      ∀ call ∈ Tree.calls tree, Slot.KeptApart call.slots)
    ⟨fun h => ⟨h.1, h.2⟩, fun h => ⟨h.paths, h.calls⟩⟩

/-- The same of a single node. -/
def Node.Settled (node : Node) : Prop := Tree.Settled [node]

/-! ### Walks into slots -/

theorem Slot.mem_listCalls_iff {slots : List Slot} {call : Call} :
    call ∈ Slot.listCalls slots ↔
      ∃ slot ∈ slots, ∃ value, slot.value = some value ∧ call ∈ Tree.calls value := by
  induction slots with
  | nil => simp [Slot.listCalls]
  | cons slot rest ih =>
    rw [Slot.listCalls, List.mem_append, ih]
    obtain ⟨label, type, value⟩ := slot
    cases value with
    | none => simp [Slot.calls]
    | some tree => simp [Slot.calls]

theorem Slot.mem_listVariables_iff {slots : List Slot} {path : String} :
    path ∈ Slot.listVariables slots ↔
      ∃ slot ∈ slots, ∃ value, slot.value = some value ∧ path ∈ Tree.variables value := by
  induction slots with
  | nil => simp [Slot.listVariables]
  | cons slot rest ih =>
    rw [Slot.listVariables, List.mem_append, ih]
    obtain ⟨label, type, value⟩ := slot
    cases value with
    | none => simp [Slot.variables]
    | some tree => simp [Slot.variables]

/-- The calls of a tree are those of its nodes and those in their slots. -/
theorem Tree.mem_calls_iff {tree : Tree} {call : Call} :
    call ∈ Tree.calls tree ↔
      ∃ outer, Node.call outer ∈ tree ∧
        (call = outer ∨
          ∃ slot ∈ outer.slots, ∃ value, slot.value = some value ∧ call ∈ Tree.calls value) := by
  induction tree with
  | nil => simp [Tree.calls]
  | cons node rest ih =>
    rw [Tree.calls, List.mem_append, ih]
    cases node with
    | text content => simp [Node.calls]
    | «variable» path => simp [Node.calls]
    | call c =>
      obtain ⟨qualifier, signature, slots⟩ := c
      simp [Node.calls, Call.innerCalls, Slot.mem_listCalls_iff, or_and_right, exists_or]

/-! ### Along the tree -/

theorem Tree.settled_nil : Tree.Settled [] where
  paths := by simp [Tree.variables]
  calls := by simp [Tree.calls]

theorem Tree.settled_cons {node : Node} {rest : Tree} :
    Tree.Settled (node :: rest) ↔ node.Settled ∧ Tree.Settled rest := by
  have hpaths (path : String) : path ∈ Tree.variables (node :: rest) ↔
      path ∈ Tree.variables [node] ∨ path ∈ Tree.variables rest := by simp [Tree.variables]
  have hcalls (call : Call) : call ∈ Tree.calls (node :: rest) ↔
      call ∈ Tree.calls [node] ∨ call ∈ Tree.calls rest := by simp [Tree.calls]
  constructor
  · intro h
    exact ⟨⟨fun path hp => h.paths path ((hpaths path).2 (Or.inl hp)),
        fun call hc => h.calls call ((hcalls call).2 (Or.inl hc))⟩,
      ⟨fun path hp => h.paths path ((hpaths path).2 (Or.inr hp)),
        fun call hc => h.calls call ((hcalls call).2 (Or.inr hc))⟩⟩
  · rintro ⟨hnode, hrest⟩
    exact ⟨fun path hp => ((hpaths path).1 hp).elim (hnode.paths path) (hrest.paths path),
      fun call hc => ((hcalls call).1 hc).elim (hnode.calls call) (hrest.calls call)⟩

/-- **A settled tree is one of settled nodes.** -/
theorem Tree.settled_iff {tree : Tree} : tree.Settled ↔ ∀ node ∈ tree, node.Settled := by
  induction tree with
  | nil => simpa using Tree.settled_nil
  | cons node rest ih => rw [Tree.settled_cons, ih, List.forall_mem_cons]

theorem Node.settled_text (content : String) : (Node.text content).Settled where
  paths := by simp [Tree.variables, Node.variables]
  calls := by simp [Tree.calls, Node.calls]

theorem Node.settled_variable_iff {path : String} :
    (Node.variable path).Settled ↔ ¬EndsStray path.toList := by
  constructor
  · intro h
    exact h.paths path (by simp [Tree.variables, Node.variables])
  · intro h
    exact ⟨by simpa [Tree.variables, Node.variables] using h, by simp [Tree.calls, Node.calls]⟩

/-- **A settled call** keeps its values apart, and they are settled. -/
theorem Node.settled_call_iff {call : Call} :
    (Node.call call).Settled ↔
      Slot.KeptApart call.slots ∧
        ∀ slot ∈ call.slots, ∀ value : Tree, slot.value = some value → value.Settled := by
  obtain ⟨qualifier, signature, slots⟩ := call
  have hpaths (path : String) : path ∈ Tree.variables [.call ⟨qualifier, signature, slots⟩] ↔
      ∃ slot ∈ slots, ∃ value, slot.value = some value ∧ path ∈ Tree.variables value := by
    simp only [Tree.variables, Node.variables, Call.variables, List.append_nil]
    exact Slot.mem_listVariables_iff
  have hcalls (call : Call) : call ∈ Tree.calls [.call ⟨qualifier, signature, slots⟩] ↔
      call = ⟨qualifier, signature, slots⟩ ∨
        ∃ slot ∈ slots, ∃ value, slot.value = some value ∧ call ∈ Tree.calls value := by
    simp only [Tree.calls, Node.calls, Call.innerCalls, List.append_nil, List.mem_cons]
    exact or_congr Iff.rfl Slot.mem_listCalls_iff
  -- The call is one of the calls of its tree, and all others are in the values of its slots.
  constructor
  · intro h
    refine ⟨h.calls _ ((hcalls _).2 (Or.inl rfl)), fun slot hslot value hvalue => ⟨?_, ?_⟩⟩
    · exact fun path hp => h.paths path ((hpaths path).2 ⟨slot, hslot, value, hvalue, hp⟩)
    · exact fun call hc => h.calls call ((hcalls call).2 (Or.inr ⟨slot, hslot, value, hvalue, hc⟩))
  · rintro ⟨hapart, hvalues⟩
    refine ⟨fun path hp => ?_, fun call hc => ?_⟩
    · obtain ⟨slot, hslot, value, hvalue, hp⟩ := (hpaths path).1 hp
      exact (hvalues slot hslot value hvalue).paths path hp
    · rcases (hcalls call).1 hc with rfl | ⟨slot, hslot, value, hvalue, hc⟩
      · exact hapart
      · exact (hvalues slot hslot value hvalue).calls call hc

end Interpolation
