import Mathlib.Data.Finset.Card
import Mathlib.Logic.Relation

/-!
Breadth-first walks over a graph that is given by the successors of its nodes,
with a queue and a list of what was seen. A walk stays within what is reachable
from its seeds, and with enough fuel it reaches all of it. Nothing here mentions
the homeserver.
-/

namespace Merovingian.GraphWalk

open List

variable {Node : Type} [DecidableEq Node]

def enqueue (seen queue : List Node) : List Node → List Node × List Node
  | [] => (seen, queue)
  | node :: rest =>
    if node ∈ seen then enqueue seen queue rest
    else enqueue (node :: seen) (queue ++ [node]) rest

def walk (next : Node → List Node) : Nat → List Node → List Node → List Node
  | 0, _, _ => []
  | _ + 1, _, [] => []
  | fuel + 1, seen, node :: queue =>
    node :: walk next fuel (enqueue seen queue (next node)).1 (enqueue seen queue (next node)).2

def breadthFirst (next : Node → List Node) (fuel : Nat) (seeds : List Node) : List Node :=
  walk next fuel (enqueue [] [] seeds).1 (enqueue [] [] seeds).2

def Reaches (next : Node → List Node) : Node → Node → Prop :=
  Relation.ReflTransGen fun node successor => successor ∈ next node

theorem enqueue_spec (seen queue nodes : List Node) :
    ∃ added, enqueue seen queue nodes = (added.reverse ++ seen, queue ++ added) ∧
      added.Nodup ∧ (∀ node ∈ added, node ∈ nodes ∧ node ∉ seen) ∧
      ∀ node ∈ nodes, node ∈ seen ∨ node ∈ added := by
  induction nodes generalizing seen queue with
  | nil => exact ⟨[], by simp [enqueue], .nil, by simp, by simp⟩
  | cons first rest ih =>
    rw [enqueue]
    split_ifs with hseen
    · obtain ⟨added, heq, hnodup, hnew, hall⟩ := ih seen queue
      refine ⟨added, heq, hnodup, ?_, ?_⟩
      · intro node hnode
        exact ⟨mem_cons_of_mem _ (hnew node hnode).1, (hnew node hnode).2⟩
      · exact forall_mem_cons.mpr ⟨.inl hseen, hall⟩
    · obtain ⟨added, heq, hnodup, hnew, hall⟩ := ih (first :: seen) (queue ++ [first])
      refine ⟨first :: added, by simp [heq], ?_, ?_, ?_⟩
      · refine nodup_cons.mpr ⟨?_, hnodup⟩
        intro hmem
        exact (hnew first hmem).2 mem_cons_self
      · intro node hnode
        rcases mem_cons.mp hnode with rfl | hadded
        · exact ⟨mem_cons_self, hseen⟩
        · exact ⟨mem_cons_of_mem _ (hnew node hadded).1,
            fun hold => (hnew node hadded).2 (mem_cons_of_mem _ hold)⟩
      · intro node hnode
        rcases mem_cons.mp hnode with rfl | hrest
        · exact .inr mem_cons_self
        · rcases hall node hrest with hold | hadded
          · rcases mem_cons.mp hold with rfl | hold
            · exact .inr mem_cons_self
            · exact .inl hold
          · exact .inr (mem_cons_of_mem _ hadded)

section Walks

variable {next : Node → List Node}

variable {seen queue : List Node}

theorem walk_sound {fuel : Nat} {node : Node}
    (h : node ∈ walk next fuel seen queue) : ∃ start ∈ queue, Reaches next start node := by
  induction fuel generalizing seen queue with
  | zero => cases h
  | succ fuel ih =>
    rcases queue with - | ⟨first, rest⟩
    · cases h
    · rcases mem_cons.mp h with rfl | hrest
      · exact ⟨node, mem_cons_self, .refl⟩
      · obtain ⟨added, heq, -, hnew, -⟩ := enqueue_spec seen rest (next first)
        rw [heq] at hrest
        obtain ⟨start, hstart, hreach⟩ := ih hrest
        rcases mem_append.mp hstart with hold | hadded
        · exact ⟨start, mem_cons_of_mem _ hold, hreach⟩
        · exact ⟨first, mem_cons_self, .head (hnew start hadded).1 hreach⟩

theorem nodup_walk {fuel : Nat} (hqueue : queue.Nodup)
    (hseen : queue ⊆ seen) : (walk next fuel seen queue).Nodup ∧
      ∀ node ∈ walk next fuel seen queue, node ∈ queue ∨ node ∉ seen := by
  induction fuel generalizing seen queue with
  | zero => exact ⟨.nil, fun _ hnode => absurd hnode not_mem_nil⟩
  | succ fuel ih =>
    rcases queue with - | ⟨first, rest⟩
    · exact ⟨.nil, fun _ hnode => absurd hnode not_mem_nil⟩
    · obtain ⟨added, heq, hnodup, hnew, -⟩ := enqueue_spec seen rest (next first)
      obtain ⟨hfirst, hrest⟩ := nodup_cons.mp hqueue
      obtain ⟨hold, hbelow⟩ := cons_subset.mp hseen
      have hmarked : rest ++ added ⊆ added.reverse ++ seen := by grind
      obtain ⟨hwalk, hvisited⟩ := ih
        (hrest.append hnodup fun node hmem hadded => (hnew node hadded).2 (hbelow hmem)) hmarked
      rw [walk, heq]
      refine ⟨nodup_cons.mpr ⟨fun hagain => ?_, hwalk⟩, fun node hnode => ?_⟩
      · have := hvisited first hagain
        grind
      · rcases mem_cons.mp hnode with rfl | hlater
        · exact .inl mem_cons_self
        · have := hvisited node hlater
          grind

theorem nodup_breadthFirst (fuel : Nat) (seeds : List Node) :
    (breadthFirst next fuel seeds).Nodup := by
  obtain ⟨added, heq, hnodup, -, -⟩ := enqueue_spec [] [] seeds
  rw [breadthFirst, heq]
  exact (nodup_walk hnodup (by simp)).1

/-- The state of a walk inside a set of nodes: what has left the queue has all
its successors seen. -/
structure Frontier (next : Node → List Node) (bound : Finset Node) (seen queue : List Node) :
    Prop where
  seenNodup : seen.Nodup
  queueNodup : queue.Nodup
  queueSeen : queue ⊆ seen
  seenBound : ∀ node ∈ seen, node ∈ bound
  done : ∀ node ∈ seen, node ∉ queue → ∀ successor ∈ next node, successor ∈ seen

variable {bound : Finset Node}

theorem Frontier.length_le
    (h : Frontier next bound seen queue) : seen.length ≤ bound.card := by
  rw [← toFinset_card_of_nodup h.seenNodup]
  refine Finset.card_le_card ?_
  intro node hnode
  exact h.seenBound node (mem_toFinset.mp hnode)

variable (hclosed : ∀ node ∈ bound, ∀ successor ∈ next node, successor ∈ bound)
include hclosed

omit [DecidableEq Node] in
theorem Frontier.step {node : Node} (h : Frontier next bound seen (node :: queue))
    {added : List Node} (hnodup : added.Nodup)
    (hnew : ∀ other ∈ added, other ∈ next node ∧ other ∉ seen)
    (hall : ∀ other ∈ next node, other ∈ seen ∨ other ∈ added) :
    Frontier next bound (added.reverse ++ seen) (queue ++ added) := by
  obtain ⟨hfirst, hrest⟩ := nodup_cons.mp h.queueNodup
  have hseen : node ∈ seen := h.queueSeen mem_cons_self
  constructor
  · refine nodup_append.mpr ⟨nodup_reverse.mpr hnodup, h.seenNodup, ?_⟩
    rintro other hadded _ hold rfl
    exact (hnew other (mem_reverse.mp hadded)).2 hold
  · refine nodup_append.mpr ⟨hrest, hnodup, ?_⟩
    rintro other hqueued _ hadded rfl
    exact (hnew other hadded).2 (h.queueSeen (mem_cons_of_mem _ hqueued))
  · intro other hother
    rcases mem_append.mp hother with hqueued | hadded
    · exact mem_append_right _ (h.queueSeen (mem_cons_of_mem _ hqueued))
    · exact mem_append_left _ (mem_reverse.mpr hadded)
  · intro other hother
    rcases mem_append.mp hother with hadded | hold
    · exact hclosed node (h.seenBound node hseen) other
        (hnew other (mem_reverse.mp hadded)).1
    · exact h.seenBound other hold
  · intro other hother hout successor hsuccessor
    rcases mem_append.mp hother with hadded | hold
    · exact absurd (mem_append_right _ (mem_reverse.mp hadded)) hout
    · rcases eq_or_ne other node with rfl | hne
      · rcases hall successor hsuccessor with hseen' | hadded
        · exact mem_append_right _ hseen'
        · exact mem_append_left _ (mem_reverse.mpr hadded)
      · refine mem_append_right _ (h.done other hold ?_ successor hsuccessor)
        intro hqueued
        rcases mem_cons.mp hqueued with heq | hqueued
        · exact hne heq
        · exact hout (mem_append_left _ hqueued)

/-- With enough fuel, what was done and what the walk visits together hold
everything seen and all successors. -/
theorem walk_closed {fuel : Nat} (h : Frontier next bound seen queue)
    (hfuel : bound.card + queue.length ≤ seen.length + fuel) :
    let Visited := fun node => (node ∈ seen ∧ node ∉ queue) ∨ node ∈ walk next fuel seen queue
    (∀ node ∈ seen, Visited node) ∧
      ∀ node, Visited node → ∀ successor ∈ next node, Visited successor := by
  induction fuel generalizing seen queue <;> cases queue
  case zero.nil | succ.nil =>
    refine ⟨fun node hnode => .inl ⟨hnode, not_mem_nil⟩, ?_⟩
    rintro node (⟨hnode, -⟩ | hwalked) successor hsuccessor
    · exact .inl ⟨h.done node hnode not_mem_nil successor hsuccessor, not_mem_nil⟩
    · cases hwalked
  case zero.cons =>
    have hlength := h.length_le
    rw [length_cons] at hfuel
    omega
  case succ.cons fuel ih first rest =>
    obtain ⟨added, heq, hnodup, hnew, hall⟩ := enqueue_spec seen rest (next first)
    have hstep := h.step hclosed hnodup hnew hall
    obtain ⟨hseen, hnext⟩ := ih hstep (by
      simp only [length_append, length_reverse, length_cons] at hfuel ⊢
      omega)
    obtain ⟨hfirst, -⟩ := nodup_cons.mp h.queueNodup
    -- The node that leaves the queue is the only one whose side changes.
    have hsame : ∀ node, ((node ∈ added.reverse ++ seen ∧ node ∉ rest ++ added) ∨
        node ∈ walk next fuel (added.reverse ++ seen) (rest ++ added)) ↔
        ((node ∈ seen ∧ node ∉ first :: rest) ∨
          node ∈ walk next (fuel + 1) seen (first :: rest)) := by
      intro node
      rw [walk, heq]
      simp only [mem_append, mem_reverse, mem_cons, not_or]
      constructor
      · rintro (⟨hadded | hold, hout, hnotAdded⟩ | hwalked)
        · exact absurd hadded hnotAdded
        · rcases eq_or_ne node first with rfl | hne
          · exact .inr (.inl rfl)
          · exact .inl ⟨hold, hne, hout⟩
        · exact .inr (.inr hwalked)
      · rintro (⟨hold, -, hout⟩ | rfl | hwalked)
        · exact .inl ⟨.inr hold, hout, fun hadded => (hnew node hadded).2 hold⟩
        · exact .inl ⟨.inr (h.queueSeen mem_cons_self), hfirst,
            fun hadded => (hnew node hadded).2 (h.queueSeen mem_cons_self)⟩
        · exact .inr hwalked
    refine ⟨?_, ?_⟩
    · intro node hnode
      exact (hsame node).mp (hseen node (mem_append_right _ hnode))
    · intro node hvisited successor hsuccessor
      exact (hsame successor).mp
        (hnext node ((hsame node).mpr hvisited) successor hsuccessor)

/-- A walk with enough fuel visits exactly what its seeds reach. -/
theorem mem_breadthFirst_iff {seeds : List Node} (hseeds : ∀ seed ∈ seeds, seed ∈ bound)
    {fuel : Nat} (hfuel : bound.card ≤ fuel) {node : Node} :
    node ∈ breadthFirst next fuel seeds ↔ ∃ seed ∈ seeds, Reaches next seed node := by
  obtain ⟨added, heq, hnodup, hnew, hall⟩ := enqueue_spec [] [] seeds
  rw [breadthFirst, heq]
  simp only [append_nil, nil_append]
  constructor
  · intro hmem
    obtain ⟨start, hstart, hreach⟩ := walk_sound hmem
    exact ⟨start, (hnew start hstart).1, hreach⟩
  · rintro ⟨seed, hseed, hreach⟩
    have hfrontier : Frontier next bound added.reverse added :=
      ⟨nodup_reverse.mpr hnodup, hnodup, fun _ => mem_reverse.mpr,
        fun other hother => hseeds other (hnew other (mem_reverse.mp hother)).1,
        fun other hother hout => absurd (mem_reverse.mp hother) hout⟩
    have henough : bound.card + added.length ≤ added.reverse.length + fuel := by
      rw [length_reverse]
      omega
    obtain ⟨hseen, hnext⟩ := walk_closed hclosed hfrontier henough
    have hvisited : ∀ other, Reaches next seed other → ((other ∈ added.reverse ∧ other ∉ added) ∨
          other ∈ walk next fuel added.reverse added) := by
      intro other hpath
      induction hpath with
      | refl =>
        refine hseen seed (mem_reverse.mpr ?_)
        exact (hall seed hseed).resolve_left not_mem_nil
      | tail _ hstep ih => exact hnext _ ih _ hstep
    rcases hvisited node hreach with ⟨hmem, hout⟩ | hwalked
    · exact absurd (mem_reverse.mp hmem) hout
    · exact hwalked

end Walks

end Merovingian.GraphWalk
