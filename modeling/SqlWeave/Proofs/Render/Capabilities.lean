import SqlWeave.Proofs.RenderModes
import SqlWeave.Proofs.Tree.Built
import SqlWeave.Proofs.Tree.Congruence

/-! What a registration changes. The standard rules are registered for one capability at a time or
for all of them, and what a run of registrations comes to is decided capability by capability. An
expression without nodes of a kind is written the same whether there is a rule for that kind or
not. -/

namespace SqlWeave

open HasSlots (slots)
open Render

/-! ## Registering the standard rules -/

inductive Registration where
  | one (c : Capability)
  | every
deriving DecidableEq, Repr

def Registration.covers : Registration → Capability → Bool
  | .one c, d => c == d
  | .every, _ => true

namespace Registry

def take (g : Registry) : Registration → Registry
  | .one c => g.register c .standard
  | .every => g.registerAll .standard

def run (g : Registry) (steps : List Registration) : Registry := steps.foldl take g

theorem resolve_take (g : Registry) (step : Registration) (c : Capability) :
    (g.take step).resolve c = if step.covers c then some .standard else g.resolve c := by
  rcases step with d | _ <;> cases c <;> try cases d
  all_goals rfl

theorem resolve_run (g : Registry) (steps : List Registration) (c : Capability) :
    (g.run steps).resolve c = if steps.any (·.covers c) then some .standard else g.resolve c := by
  induction steps generalizing g with
  | nil => rfl
  | cons step steps ih =>
    have hrun : g.run (step :: steps) = (g.take step).run steps := rfl
    rw [hrun, ih, resolve_take, List.any_cons]
    cases step.covers c <;> simp

/-- The order and the number of the registrations do not count. -/
theorem resolve_run_start {start : Registry} (hstart : start = .empty ∨ start = .standard)
    (steps : List Registration) (c : Capability) :
    (start.run steps).resolve c =
      if (start.resolve c).isSome || steps.any (·.covers c) then some .standard else none := by
  rw [resolve_run]
  rcases hstart with rfl | rfl <;> cases c <;> cases steps.any _ <;> rfl

end Registry

/-! ## Nodes of a capability -/

/-- The capability whose rule writes the node. -/
def Node.capability? {E : Type} : Node E → Option Capability
  | .column _ => some .columnRef
  | .fullText .. => some .fullText
  | .columnDefinition _ => some .columnDefinition
  | _ => none

theorem Node.capability?_map {E F : Type} (n : Node E) (f : E → F) :
    (n.map f).capability? = n.capability? := by
  cases n <;> rfl

/-- The expression or one of its subexpressions is a node of the capability. -/
def Expr.Uses (e : Expr) (c : Capability) : Prop := ∃ n, e.HasNode n ∧ n.capability? = some c

theorem Expr.hasNode_mk {n m : Node Expr} :
    (Expr.mk n).HasNode m ↔ n = m ∨ ∃ s ∈ n.slots, ∃ e, s.expr? = some e ∧ e.HasNode m := by
  constructor
  · rintro (hm | ⟨t, e', ht, he', hm⟩)
    · exact .inl hm
    · cases ht with
      | here hs => exact .inr ⟨t, hs, e', he', .inl hm⟩
      | inside hs he ht => exact .inr ⟨_, hs, _, he, .inr ⟨t, e', ht, he', hm⟩⟩
  · rintro (hm | ⟨s, hs, e, he, hm | ⟨t, e', ht, he', hm⟩⟩)
    · exact .inl hm
    · exact .inr ⟨s, e, .here hs, he, hm⟩
    · exact .inr ⟨t, e', .inside hs he ht, he', hm⟩

theorem Expr.uses_mk {n : Node Expr} {c : Capability} :
    (Expr.mk n).Uses c ↔ n.capability? = some c ∨ ∃ s ∈ n.slots, ∃ e, s.expr? = some e ∧
      e.Uses c := by
  constructor
  · rintro ⟨m, hm, hc⟩
    rcases hasNode_mk.mp hm with rfl | ⟨s, hs, e, he, hm⟩
    · exact .inl hc
    · exact .inr ⟨s, hs, e, he, m, hm, hc⟩
  · rintro (hc | ⟨s, hs, e, he, m, hm, hc⟩)
    · exact ⟨n, .inl rfl, hc⟩
    · exact ⟨m, hasNode_mk.mpr (.inr ⟨s, hs, e, he, hm⟩), hc⟩

/-! ## Writing with two registries -/

namespace Renderer

variable {config : RenderConfig} {g g' : Registry}

theorem chain_registry (operator : Option String) (ss : List (Select Item)) :
    chain ⟨config, g⟩ operator ss = chain ⟨config, g'⟩ operator ss := by
  induction ss generalizing operator with
  | nil => rfl
  | cons s ss ih =>
    rw [chain, chain, ih]
    rfl

theorem query_registry (q : Query Item) : query ⟨config, g⟩ q = query ⟨config, g'⟩ q := by
  rw [query, query, @chain_registry config g g']
  rfl

/-- The registry is asked for nodes of a capability only, and only for that capability. -/
theorem node_registry (n : Node Item)
    (h : ∀ c, n.capability? = some c → g.resolve c = g'.resolve c) :
    node ⟨config, g⟩ n = node ⟨config, g'⟩ n := by
  cases n with
  | column c =>
    have hrule : g.columnRef = g'.columnRef := h .columnRef rfl
    simp only [node, hrule]
  | fullText =>
    have hrule : g.fullText = g'.fullText := h .fullText rfl
    simp only [node, hrule]
  | columnDefinition d =>
    have hrule : g.columnDefinition = g'.columnDefinition := h .columnDefinition rfl
    simp only [node, hrule]
  | query q => exact query_registry q
  | _ => rfl

theorem rendered_registry (e : Expr) (h : ∀ c, e.Uses c → g.resolve c = g'.resolve c) :
    rendered ⟨config, g⟩ e = rendered ⟨config, g'⟩ e := by
  induction e using Expr.slot_induction with
  | step n ih =>
    have hitem : Slot.Same (item ⟨config, g⟩) (item ⟨config, g'⟩) n.slots := fun s hs e he =>
      congrArg (Prod.mk e) (ih s hs e he fun c hc =>
        h c (Expr.uses_mk.mpr (.inr ⟨s, hs, e, he, hc⟩)))
    have hnode (c : Capability) (hc : (n.map (item ⟨config, g'⟩)).capability? = some c) :
        g.resolve c = g'.resolve c :=
      h c (Expr.uses_mk.mpr (.inl ((n.capability?_map _).symm.trans hc)))
    rw [rendered_mk, rendered_mk, n.map_congr hitem, node_registry _ hnode]

end Renderer

/-- After any two runs of registrations, an expression is written the same if for each capability
that it has nodes of either both registries have a rule or neither has. And whether there is a rule
depends on nothing but whether the capability was covered, at the start or by some registration. -/
theorem registrations_frame {start start' : Registry} (hstart : start = .empty ∨ start = .standard)
    (hstart' : start' = .empty ∨ start' = .standard) (steps steps' : List Registration) :
    (∀ c, (start.run steps).resolve c =
      if (start.resolve c).isSome || steps.any (·.covers c) then some .standard else none) ∧
    ∀ e : Expr, (∀ c, e.Uses c → (((start.run steps).resolve c).isSome ↔
      ((start'.run steps').resolve c).isSome)) →
      ∀ config : RenderConfig,
        Renderer.expr ⟨config, start.run steps⟩ e =
          Renderer.expr ⟨config, start'.run steps'⟩ e := by
  refine ⟨Registry.resolve_run_start hstart steps, fun e h config => ?_⟩
  refine congrArg Rendered.sql (Renderer.rendered_registry e fun c hc => ?_)
  have hboth := h c hc
  rw [Registry.resolve_run_start hstart, Registry.resolve_run_start hstart'] at hboth ⊢
  generalize ((start.resolve c).isSome || steps.any (·.covers c)) = covered at hboth ⊢
  generalize ((start'.resolve c).isSome || steps'.any (·.covers c)) = covered' at hboth ⊢
  cases covered <;> cases covered' <;> simp at hboth ⊢

/-- The only node of a capability in a sum is the column, so that other rules make no difference to
it. -/
theorem registrations_frame_sum :
    let sum := (Expr.column "a").binary "+" .null
    Renderer.expr ⟨{ dialect := .mySql }, Registry.empty.run [.one .columnRef]⟩ sum =
      Renderer.expr ⟨{ dialect := .mySql }, Registry.standard.run []⟩ sum := by
  intro sum
  refine (registrations_frame (.inl rfl) (.inr rfl) [.one .columnRef] []).2 sum (fun c hc => ?_) _
  have hcolumn : some .columnRef = some c := by
    rcases Expr.uses_mk.mp hc with hsum | ⟨s, hs, e, he, hc⟩
    · cases hsum
    simp only [Node.slots, List.mem_cons, List.not_mem_nil, or_false] at hs
    rcases hs with rfl | rfl <;> cases he <;>
      rcases Expr.uses_mk.mp hc with hnode | ⟨s, hs, e, he, -⟩
    · exact hnode
    · obtain rfl : s = .name "a" := List.mem_singleton.mp hs
      cases he
    · cases hnode
    · cases hs
  obtain rfl := Option.some.inj hcolumn
  rfl

end SqlWeave
