import Mathlib.Logic.Relation
import Mathlib.Order.WellFounded
import Mathlib.Data.List.Nodup

/-! Graphs of nodes with parents, as version control keeps them: what is reached from a tip and not
from a base, and when that is a chain. -/
namespace CommitGraph

/-- A graph in which nobody is their own ancestor. -/
structure Graph (α : Type) where
  parents : α → List α
  wellFounded : WellFounded fun parent child => parent ∈ parents child

namespace Graph
variable {α : Type} (g : Graph α)

def Parent (child parent : α) : Prop := parent ∈ g.parents child

/-- A node and its ancestors. -/
def Reaches : α → α → Prop := Relation.ReflTransGen g.Parent

/-- What the tip reaches and the base does not. -/
def InRange (base tip node : α) : Prop := g.Reaches tip node ∧ ¬ g.Reaches base node

/-- The nodes behind a base up to a tip, oldest first, each with the one before it as its only
parent. -/
inductive LinearChain (base : α) : α → List α → Prop
  | first {tip : α} (h : g.parents tip = [base]) : LinearChain base tip [tip]
  | next {parent tip : α} {chain : List α} (rest : LinearChain base parent chain)
      (h : g.parents tip = [parent]) : LinearChain base tip (chain ++ [tip])

/-- A listing of a range in which every node but the tip comes before one of its children. -/
structure Lists (base tip : α) (listed : List α) : Prop where
  nodup : listed.Nodup
  mem_iff : ∀ node, node ∈ listed ↔ g.InRange base tip node
  before_child : ∀ before node after, listed = before ++ node :: after → node ≠ tip →
    ∃ child ∈ after, g.Parent child node

variable {g} {base tip parent node : α} {chain listed : List α}

theorem reaches_parent (h : parent ∈ g.parents node) : g.Reaches node parent :=
  Relation.ReflTransGen.single h

/-- Nodes that reach each other are the same. -/
theorem reaches_antisymm (h : g.Reaches node tip) (h' : g.Reaches tip node) : node = tip := by
  have hacyclic (x : α) : ¬ Relation.TransGen g.Parent x x := fun hcycle =>
    g.wellFounded.transGen.irrefl.irrefl x (Relation.transGen_swap.mp hcycle)
  cases Relation.reflTransGen_iff_eq_or_transGen.mp h with
  | inl heq => exact heq.symm
  | inr hforth =>
    cases Relation.reflTransGen_iff_eq_or_transGen.mp h' with
    | inl heq => exact heq
    | inr hback => exact absurd (hforth.trans hback) (hacyclic node)

theorem not_reaches_child (h : parent ∈ g.parents node) : ¬ g.Reaches parent node := by
  intro hback
  have heq := reaches_antisymm (reaches_parent h) hback
  rw [heq] at h
  exact g.wellFounded.irrefl.irrefl parent h

/-- What a node with one parent reaches. -/
theorem reaches_of_one (h : g.parents tip = [parent]) :
    g.Reaches tip node ↔ node = tip ∨ g.Reaches parent node := by
  constructor
  · intro hreach
    cases Relation.ReflTransGen.cases_head hreach with
    | inl heq => exact .inl heq.symm
    | inr hstep =>
      obtain ⟨next, hnext, hrest⟩ := hstep
      rw [Parent, h, List.mem_singleton] at hnext
      exact .inr (hnext ▸ hrest)
  · intro hcases
    cases hcases with
    | inl heq =>
      rw [heq]
      exact Relation.ReflTransGen.refl
    | inr hreach =>
      have hmem : parent ∈ g.parents tip := by
        rw [h]
        exact List.mem_singleton_self parent
      exact (reaches_parent hmem).trans hreach

namespace LinearChain

theorem reaches_base (h : g.LinearChain base tip chain) : g.Reaches tip base := by
  induction h with
  | first hone => exact (reaches_of_one hone).mpr (.inr Relation.ReflTransGen.refl)
  | next _ hone ih => exact (reaches_of_one hone).mpr (.inr ih)

theorem not_reached (h : g.LinearChain base tip chain) : ¬ g.Reaches base tip := by
  cases h with
  | first hone =>
    refine not_reaches_child ?_
    rw [hone]
    exact List.mem_singleton_self base
  | next rest hone =>
    intro hback
    refine not_reaches_child ?_ (rest.reaches_base.trans hback)
    rw [hone]
    exact List.mem_singleton_self _

/-- The chain is the range. -/
theorem mem_iff (h : g.LinearChain base tip chain) :
    node ∈ chain ↔ g.InRange base tip node := by
  have hself {c : α} {nodes : List α} (hchain : g.LinearChain base c nodes) (hnode : node = c) :
      g.InRange base c node := by
    rw [hnode]
    exact ⟨Relation.ReflTransGen.refl, hchain.not_reached⟩
  induction h with
  | first hone =>
    rw [List.mem_singleton]
    refine ⟨hself (.first hone), fun hrange => ?_⟩
    exact ((reaches_of_one hone).mp hrange.1).resolve_right hrange.2
  | next rest hone ih =>
    rw [List.mem_append, List.mem_singleton]
    refine (or_congr_left ih).trans ⟨?_, ?_⟩
    · intro hcases
      cases hcases with
      | inl hrange => exact ⟨(reaches_of_one hone).mpr (.inr hrange.1), hrange.2⟩
      | inr heq => exact hself (.next rest hone) heq
    · intro hrange
      cases (reaches_of_one hone).mp hrange.1 with
      | inl heq => exact .inr heq
      | inr hreach => exact .inl ⟨hreach, hrange.2⟩

/-- The tip is no part of the chain before it. -/
theorem not_mem_before (rest : g.LinearChain base parent chain) (hone : g.parents tip = [parent]) :
    tip ∉ chain := by
  intro hin
  refine not_reaches_child ?_ (rest.mem_iff.mp hin).1
  rw [hone]
  exact List.mem_singleton_self parent

/-- A listing of what the tip and a chain before it reach lists the chain first. -/
theorem lists_before (rest : g.LinearChain base parent chain) (hone : g.parents tip = [parent])
    (hlists : g.Lists base tip (listed ++ [tip])) : g.Lists base parent listed := by
  obtain ⟨hnodup, _, happart⟩ := List.nodup_append.mp hlists.nodup
  have hfresh : tip ∉ listed := fun hin => happart tip hin tip (List.mem_singleton_self tip) rfl
  have hmem (node : α) : node ∈ listed ∨ node = tip ↔ node ∈ chain ∨ node = tip := by
    rw [← List.mem_singleton, ← List.mem_append, hlists.mem_iff, ← (next rest hone).mem_iff,
      List.mem_append]
  refine ⟨hnodup, fun node => ?_, fun before node after hsplit hnode => ?_⟩
  · rw [← rest.mem_iff]
    constructor
    · intro hin
      exact ((hmem node).mp (.inl hin)).resolve_right fun heq => hfresh (heq ▸ hin)
    · intro hin
      have hother : node ≠ tip := fun heq => rest.not_mem_before hone (heq ▸ hin)
      exact ((hmem node).mpr (.inl hin)).resolve_right hother
  · have hother : node ≠ tip := by
      intro heq
      rw [heq] at hsplit
      exact hfresh (hsplit ▸ List.mem_append_right before List.mem_cons_self)
    have hwhole : listed ++ [tip] = before ++ node :: (after ++ [tip]) := by
      rw [hsplit, List.append_assoc, List.cons_append]
    obtain ⟨child, hchild, hparent⟩ := hlists.before_child before node _ hwhole hother
    cases List.mem_append.mp hchild with
    | inl hafter => exact ⟨child, hafter, hparent⟩
    | inr hend =>
      rw [List.mem_singleton.mp hend, Parent, hone, List.mem_singleton] at hparent
      exact absurd hparent hnode

/-- A listing of the range of a chain lists the chain. -/
theorem eq_of_lists (h : g.LinearChain base tip chain) (hlists : g.Lists base tip listed) :
    listed = chain := by
  induction h generalizing listed with
  | @first tip hone =>
    have hmem (node : α) : node ∈ listed ↔ node ∈ [tip] := by
      rw [hlists.mem_iff, (first hone).mem_iff]
    exact List.perm_singleton.mp
      ((List.perm_ext_iff_of_nodup hlists.nodup (List.nodup_singleton tip)).mpr hmem)
  | @next parent tip chain rest hone ih =>
    have htip : tip ∈ listed :=
      (hlists.mem_iff tip).mpr ((next rest hone).mem_iff.mp (by simp))
    obtain ⟨before, last, hlisted⟩ :=
      (List.eq_nil_or_concat listed).resolve_left (List.ne_nil_of_mem htip)
    rw [List.concat_eq_append] at hlisted
    subst hlisted
    have hlast : last = tip := by
      by_contra hother
      obtain ⟨child, hchild, _⟩ := hlists.before_child before last [] rfl hother
      cases hchild
    subst hlast
    rw [ih (rest.lists_before hone hlists)]

theorem one_parent (h : g.LinearChain base tip chain) (hnode : node ∈ chain) :
    (g.parents node).length = 1 := by
  induction h with
  | first hone =>
    rw [List.mem_singleton.mp hnode, hone]
    rfl
  | next rest hone ih =>
    cases List.mem_append.mp hnode with
    | inl hin => exact ih hin
    | inr heq =>
      rw [List.mem_singleton.mp heq, hone]
      rfl

theorem head_parents (h : g.LinearChain base tip chain) :
    ∃ oldest rest, chain = oldest :: rest ∧ g.parents oldest = [base] := by
  induction h with
  | @first tip hone => exact ⟨tip, [], rfl, hone⟩
  | @next parent tip chain rest hone ih =>
    obtain ⟨oldest, more, rfl, hparents⟩ := ih
    exact ⟨oldest, more ++ [tip], rfl, hparents⟩

theorem getLast (h : g.LinearChain base tip chain) : chain.getLast? = some tip := by
  cases h with
  | first => rfl
  | next => exact List.getLast?_concat

end LinearChain

/-- A base that is reached through nodes of one parent each is that of a chain. -/
theorem exists_linearChain (hreach : g.Reaches tip base) (hproper : tip ≠ base)
    (hparents : ∀ node, g.InRange base tip node → (g.parents node).length ≤ 1) :
    ∃ chain, g.LinearChain base tip chain := by
  induction tip using g.wellFounded.induction with
  | _ tip ih =>
    cases Relation.ReflTransGen.cases_head hreach with
    | inl heq => exact absurd heq hproper
    | inr hstep =>
      obtain ⟨parent, hparent, hrest⟩ := hstep
      have hself : g.InRange base tip tip := by
        refine ⟨Relation.ReflTransGen.refl, fun hback => ?_⟩
        exact not_reaches_child hparent (hrest.trans hback)
      have hone : g.parents tip = [parent] := by
        have hlength := hparents tip hself
        obtain ⟨only, honly⟩ := List.length_eq_one_iff.mp
          (Nat.le_antisymm hlength (List.length_pos_of_mem hparent))
        rw [Parent, honly, List.mem_singleton] at hparent
        rw [honly, hparent]
      by_cases hbase : parent = base
      · rw [hbase] at hone
        exact ⟨[tip], .first hone⟩
      · obtain ⟨chain, hchain⟩ := ih parent hparent hrest hbase fun node hnode =>
          hparents node ⟨(reaches_parent hparent).trans hnode.1, hnode.2⟩
        exact ⟨chain ++ [tip], .next hchain hone⟩

/-- There is a chain if and only if the base is a proper ancestor and nobody in the range has two
parents. -/
theorem exists_linearChain_iff : (∃ chain, g.LinearChain base tip chain) ↔
    g.Reaches tip base ∧ tip ≠ base ∧
      ∀ node, g.InRange base tip node → (g.parents node).length ≤ 1 := by
  constructor
  · intro h
    obtain ⟨chain, hchain⟩ := h
    refine ⟨hchain.reaches_base, fun heq => ?_, fun node hnode => ?_⟩
    · rw [heq] at hchain
      exact hchain.not_reached Relation.ReflTransGen.refl
    · exact (hchain.one_parent (hchain.mem_iff.mpr hnode)).le
  · intro h
    exact exists_linearChain h.1 h.2.1 h.2.2

end Graph

end CommitGraph
