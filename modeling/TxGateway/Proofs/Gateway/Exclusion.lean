import Mathlib.Data.List.Basic
import TxGateway.Roster

namespace TxGateway.Roster

/-! # Families that are left out

Settings leave out families of providers. Whatever else decides about a family, it does not look at
whether another one is left out, so further exclusions take the providers of their families off the
roster and leave the rest of it as it is.

* `group` is the part of a roster that one family makes up; `filter_providers` tells what is left of a
  roster when families are chosen.
* `Ranked` says in which order the providers stand.
* `exclusion_filters` compares the rosters of settings with fewer and with more exclusions.
-/

/-! ## The groups of a roster -/

/-- The providers of a family that take part. -/
def group (s : Settings) (m : MinerLists) (c : Connections) (p : Purpose) : Family → List Provider
  | .miner => miners s m c p
  | .explorer => outlet s c p .explorer
  | .secondaryExplorer => outlet s c p .secondaryExplorer
  | .nodeProxy => outlet s c p .nodeProxy

variable (s : Settings) (m : MinerLists) (c : Connections) (p : Purpose)

theorem providers_eq_flatMap : providers s m c p = Family.all.flatMap (group s m c p) := by
  simp [providers, Family.all, group]

theorem family_of_mem_outlet {o : Outlet} {q : Provider} (h : q ∈ outlet s c p o) :
    q.family = o.family := by
  unfold outlet at h
  split at h
  · obtain ⟨name, -, rfl⟩ := Option.map_eq_some_iff.mp (Option.mem_toList.mp h)
    rfl
  · cases h

theorem family_of_mem_group {f : Family} {q : Provider} (h : q ∈ group s m c p f) :
    q.family = f := by
  cases f with
  | miner =>
    have hminer : q ∈ miners s m c p := h
    unfold miners at hminer
    split at hminer
    · obtain ⟨x, -, rfl⟩ := List.mem_map.mp hminer
      rfl
    · cases hminer
  | explorer => exact family_of_mem_outlet s c p (o := .explorer) h
  | secondaryExplorer => exact family_of_mem_outlet s c p (o := .secondaryExplorer) h
  | nodeProxy => exact family_of_mem_outlet s c p (o := .nodeProxy) h

/-- A choice of families is a choice of groups. -/
theorem filter_providers (chosen : Family → Bool) :
    (providers s m c p).filter (fun q => chosen q.family) =
      Family.all.flatMap fun f => if chosen f then group s m c p f else [] := by
  rw [providers_eq_flatMap, List.filter_flatMap]
  refine List.flatMap_congr fun f _ => ?_
  have hgroup : ∀ q ∈ group s m c p f, chosen q.family = chosen f := by
    intro q hq
    rw [family_of_mem_group s m c p hq]
  rw [List.filter_congr hgroup]
  cases chosen f with
  | true => exact List.filter_true _
  | false => exact List.filter_false _

theorem filter_family (f : Family) :
    (providers s m c p).filter (fun q => q.family == f) = group s m c p f := by
  rw [filter_providers s m c p (· == f)]
  cases f <;> simp [Family.all]

/-! ## The order of a roster -/

/-- The providers stand family by family, the miners as they are listed, and there is no more than
one provider of any other family. -/
structure Ranked (m : MinerLists) (p : Purpose) (ps : List Provider) : Prop where
  families : ps = Family.all.flatMap fun f => ps.filter (·.family == f)
  miners : ps.filter (·.family == .miner) = [] ∨
    ps.filter (·.family == .miner) = (m.list p).map Provider.miner
  outlets : ∀ o : Outlet, (ps.filter (·.family == o.family)).length ≤ 1

theorem length_outlet_le (o : Outlet) : (outlet s c p o).length ≤ 1 := by
  unfold outlet
  split
  · cases c.outlet o <;> simp
  · exact Nat.zero_le 1

theorem ranked_providers : Ranked m p (providers s m c p) where
  families := by
    simp only [filter_family]
    exact providers_eq_flatMap s m c p
  miners := by
    rw [filter_family]
    show miners s m c p = [] ∨ miners s m c p = _
    unfold miners
    split
    · exact .inr rfl
    · exact .inl rfl
  outlets := by
    intro o
    rw [filter_family]
    cases o <;> exact length_outlet_le s c p _

/-! ## Further exclusions -/

variable {further excluded : List Family}

theorem isExcluded_further (h : ∀ f, f ∈ excluded ↔ f ∈ s.excluded ∨ f ∈ further) (f : Family) :
    ({ s with excluded } : Settings).isExcluded f = (s.isExcluded f || further.contains f) := by
  rw [Bool.eq_iff_iff, Bool.or_eq_true]
  simpa [Settings.isExcluded] using h f

theorem outlet_further (h : ∀ f, f ∈ excluded ↔ f ∈ s.excluded ∨ f ∈ further) (o : Outlet) :
    outlet { s with excluded } c p o =
      if further.contains o.family then [] else outlet s c p o := by
  have hadmits : admits { s with excluded } p o =
      (!further.contains o.family && admits s p o) := by
    unfold admits
    rw [isExcluded_further s h, Bool.not_or, Bool.and_comm (!s.isExcluded _), Bool.and_assoc]
    rfl
  rw [outlet, outlet, hadmits]
  cases further.contains o.family <;> rfl

theorem miners_further (h : ∀ f, f ∈ excluded ↔ f ∈ s.excluded ∨ f ∈ further) :
    miners { s with excluded } m c p =
      if further.contains .miner then [] else miners s m c p := by
  have hadmits : admitsMiners { s with excluded } c =
      (!further.contains .miner && admitsMiners s c) := by
    rw [admitsMiners, admitsMiners, isExcluded_further s h, Bool.not_or]
    cases further.contains .miner <;> simp
  rw [miners, miners, hadmits]
  cases further.contains .miner <;> rfl

/-- A family that is left out has no providers, and every other one keeps its own. -/
theorem group_further (h : ∀ f, f ∈ excluded ↔ f ∈ s.excluded ∨ f ∈ further) (f : Family) :
    group { s with excluded } m c p f =
      if further.contains f then [] else group s m c p f := by
  cases f with
  | miner => exact miners_further s m c p h
  | explorer => exact outlet_further s c p h .explorer
  | secondaryExplorer => exact outlet_further s c p h .secondaryExplorer
  | nodeProxy => exact outlet_further s c p h .nodeProxy

/-- **Exclusions are a filter.** When further families are left out, whatever their order and however
often they are named, the roster loses the providers of these families, and every other provider
stays where it is. The roster stands family by family, with or without them. -/
theorem exclusion_filters (h : ∀ f, f ∈ excluded ↔ f ∈ s.excluded ∨ f ∈ further) :
    providers { s with excluded } m c p =
        (providers s m c p).filter (fun q => !further.contains q.family) ∧
      Ranked m p (providers s m c p) ∧ Ranked m p (providers { s with excluded } m c p) := by
  refine ⟨?_, ranked_providers s m c p, ranked_providers _ m c p⟩
  rw [filter_providers s m c p fun f => !further.contains f, providers_eq_flatMap]
  refine List.flatMap_congr fun f _ => ?_
  rw [group_further s m c p h]
  cases further.contains f <;> rfl

/-- Settings that leave out the node proxy, although it has a key. -/
def withoutNode : Settings where
  excluded := [.nodeProxy]
  nodeProxy := some ⟨"http://node.example", some ⟨"key"⟩⟩

/-- A gateway that is connected to everybody, with miners that are all listed twice. -/
def everybody : Connections := ⟨true, some "near", some "far", some "node", []⟩

def twice : MinerLists := ⟨Miner.builtIn ++ Miner.builtIn, Miner.builtIn ++ Miner.builtIn, true⟩

/-- The explorer is left out twice over. The miners and the secondary explorer stay. -/
theorem exclusion_keeps_the_rest :
    (∀ f, f ∈ [.explorer, .nodeProxy, .explorer] ↔
        f ∈ withoutNode.excluded ∨ f ∈ [Family.explorer, .explorer]) ∧
      providers { withoutNode with excluded := [.explorer, .nodeProxy, .explorer] } twice everybody
        .query = (Miner.builtIn ++ Miner.builtIn).map .miner ++ [.outlet .secondaryExplorer "far"] := by
  have h : ∀ f, f ∈ [.explorer, .nodeProxy, .explorer] ↔
      f ∈ withoutNode.excluded ∨ f ∈ [Family.explorer, .explorer] := by
    intro f
    cases f <;> decide
  exact ⟨h, (exclusion_filters withoutNode twice everybody .query h).1.trans (by decide)⟩

end TxGateway.Roster
