import Mathlib.Data.List.Nodup
import SchemaDrift.CommandLine.ModelTable

/-!
# Incremental models are listed by their ids

A manifest keeps its nodes under names, and nothing says that the name of a node is its id. The
incremental models are picked from the nodes in the order in which these happen to be listed, and
are sorted by id afterwards. What is left of the order of listing is then a matter of the ids.

* Every incremental model is listed as often as there is one (`incremental_perm`), and the list is
  sorted (`incremental_pairwise`).
* Models with one id stay as they were listed (`filter_incremental`). So the order of listing does
  not show exactly when the models **have their own ids** (`haveOwnIds_iff`): no two different
  ones share one.

`incremental_models_by_id` carries this over to what the command `models` prints.
-/

namespace SchemaDrift

namespace ManifestNode

variable {nodes nodes' : List ManifestNode}

/-! ### The incremental models among nodes -/

theorem isIncremental_iff {n : ManifestNode} :
    n.isIncremental = true ↔ n.resourceType = "model" ∧ n.settings.enabled = true
      ∧ n.settings.materialized = some "incremental" := by
  rw [isIncremental, isModel, Bool.and_eq_true, Bool.and_eq_true, decide_eq_true_iff,
    decide_eq_true_iff, and_assoc]

/-- Every incremental model is listed as often as there is one. -/
theorem incremental_perm (nodes : List ManifestNode) :
    (incremental nodes).Perm (nodes.filter (·.isIncremental)) := List.mergeSort_perm _ _

private theorem ids_trans (a b c : ManifestNode) (hab : decide (a.uniqueId ≤ b.uniqueId) = true)
    (hbc : decide (b.uniqueId ≤ c.uniqueId) = true) : decide (a.uniqueId ≤ c.uniqueId) = true :=
  decide_eq_true (String.le_trans (of_decide_eq_true hab) (of_decide_eq_true hbc))

private theorem ids_total (a b : ManifestNode) :
    (decide (a.uniqueId ≤ b.uniqueId) || decide (b.uniqueId ≤ a.uniqueId)) = true := by
  rw [Bool.or_eq_true, decide_eq_true_iff, decide_eq_true_iff]
  exact String.le_total a.uniqueId b.uniqueId

/-- The incremental models are sorted by id. -/
theorem incremental_pairwise (nodes : List ManifestNode) :
    (incremental nodes).Pairwise fun a b => a.uniqueId ≤ b.uniqueId :=
  (List.pairwise_mergeSort ids_trans ids_total _).imp of_decide_eq_true

/-- Models with one id stay in the order in which they were listed. -/
theorem filter_incremental (nodes : List ManifestNode) (id : String) :
    (incremental nodes).filter (·.uniqueId = id)
      = (nodes.filter (·.isIncremental)).filter (·.uniqueId = id) := by
  have hid : ∀ n ∈ (nodes.filter (·.isIncremental)).filter (·.uniqueId = id), n.uniqueId = id :=
    fun n hn => of_decide_eq_true (List.mem_filter.mp hn).2
  -- models with one id are sorted as they stand, and sorting keeps what is sorted in its order
  have hsorted : ((nodes.filter (·.isIncremental)).filter (·.uniqueId = id)).Pairwise
      fun a b => decide (a.uniqueId ≤ b.uniqueId) = true := by
    refine List.pairwise_of_forall_mem_list fun a ha b hb => decide_eq_true ?_
    have hsame : a.uniqueId = b.uniqueId := (hid a ha).trans (hid b hb).symm
    exact hsame ▸ String.le_refl a.uniqueId
  have hkept : ((nodes.filter (·.isIncremental)).filter (·.uniqueId = id)).Sublist
      (incremental nodes) :=
    List.sublist_mergeSort ids_trans ids_total hsorted List.filter_sublist
  have hsub := hkept.filter fun n => decide (n.uniqueId = id)
  rw [List.filter_eq_self.mpr fun n hn => decide_eq_true (hid n hn)] at hsub
  exact (hsub.eq_of_length ((incremental_perm nodes).filter _).length_eq.symm).symm

/-! ### The order of listing -/

/-- The incremental models among nodes **have their own ids** when no two different ones share
one. -/
def HaveOwnIds (nodes : List ManifestNode) : Prop :=
  ∀ a ∈ nodes, ∀ b ∈ nodes, a.isIncremental = true → b.isIncremental = true →
    a.uniqueId = b.uniqueId → a = b

theorem haveOwnIds_of_nodup (h : ((nodes.filter (·.isIncremental)).map (·.uniqueId)).Nodup) :
    HaveOwnIds nodes := by
  intro a ha b hb haincremental hbincremental hids
  exact List.inj_on_of_nodup_map h (List.mem_filter.mpr ⟨ha, haincremental⟩)
    (List.mem_filter.mpr ⟨hb, hbincremental⟩) hids

/-- Where the models have their own ids, the order of listing does not show. -/
theorem incremental_eq_of_perm (h : HaveOwnIds nodes) (hperm : nodes'.Perm nodes) :
    incremental nodes' = incremental nodes := by
  have hmodels : (incremental nodes').Perm (incremental nodes) :=
    (incremental_perm nodes').trans ((hperm.filter _).trans (incremental_perm nodes).symm)
  have hmem : ∀ n ∈ incremental nodes, n ∈ nodes ∧ n.isIncremental = true := fun n hn =>
    List.mem_filter.mp ((incremental_perm nodes).mem_iff.mp hn)
  refine hmodels.eq_of_pairwise (fun a b ha hb hab hba => ?_) (incremental_pairwise nodes')
    (incremental_pairwise nodes)
  obtain ⟨hanode, haincremental⟩ := hmem a (hmodels.mem_iff.mp ha)
  obtain ⟨hbnode, hbincremental⟩ := hmem b hb
  exact h a hanode b hbnode haincremental hbincremental (String.le_antisymm hab hba)

/-- Where two different models share an id, it shows which of them is listed first. -/
theorem haveOwnIds_iff :
    HaveOwnIds nodes
      ↔ ∀ nodes', nodes'.Perm nodes → incremental nodes' = incremental nodes := by
  refine ⟨fun h nodes' hperm => incremental_eq_of_perm h hperm, fun h => ?_⟩
  -- a model can be listed first, and then it is the first with its id
  have hfirst : ∀ n ∈ nodes, n.isIncremental = true →
      ((incremental nodes).filter (·.uniqueId = n.uniqueId)).head? = some n := by
    intro n hn hincremental
    obtain ⟨before, behind, rfl⟩ := List.append_of_mem hn
    rw [← h _ List.perm_middle.symm, filter_incremental, List.filter_cons_of_pos hincremental,
      List.filter_cons_of_pos (by simp), List.head?_cons]
  intro a ha b hb haincremental hbincremental hids
  have hsame := hfirst b hb hbincremental
  rw [← hids, hfirst a ha haincremental, Option.some.injEq] at hsame
  exact hsame

end ManifestNode

/-! ### Main result -/

/-- **Incremental models are listed by their ids.** A manifest has each model that is switched on
and loaded incrementally in its list once, and no other node, sorted by id. The list is the same
for all orders in which the nodes may be listed exactly when the models have their own ids. In
particular, where their ids are distinct, any two orders make the same list, and it is the one by
which `models` prints its lines. -/
theorem incremental_models_by_id (m : Manifest) :
    m.incrementalModels.Perm (m.nodes.values.filter fun n =>
        n.resourceType = "model" ∧ n.settings.enabled = true
          ∧ n.settings.materialized = some "incremental")
      ∧ m.incrementalModels.Pairwise (fun a b => a.uniqueId ≤ b.uniqueId)
      ∧ (ManifestNode.HaveOwnIds m.nodes.values
        ↔ ∀ nodes, nodes.Perm m.nodes.values → ManifestNode.incremental nodes = m.incrementalModels)
      ∧ (((m.nodes.values.filter (·.isIncremental)).map (·.uniqueId)).Nodup →
        ∀ nodes nodes', nodes.Perm m.nodes.values → nodes'.Perm m.nodes.values →
          ManifestNode.incremental nodes = ManifestNode.incremental nodes'
            ∧ ∀ r, (CommandLine.listModels r m).output
              = (ManifestNode.incremental nodes).map fun n =>
                CommandLine.modelLine (.ofNode n) (CommandLine.ModelTarget.of r (.ofNode n))) := by
  refine ⟨?_, ManifestNode.incremental_pairwise _, ManifestNode.haveOwnIds_iff, ?_⟩
  · have hpicked : m.nodes.values.filter (·.isIncremental)
        = m.nodes.values.filter fun n => n.resourceType = "model" ∧ n.settings.enabled = true
          ∧ n.settings.materialized = some "incremental" := by
      refine List.filter_congr fun n _ => ?_
      rw [Bool.eq_iff_iff, ManifestNode.isIncremental_iff, decide_eq_true_iff]
    rw [← hpicked]
    exact ManifestNode.incremental_perm _
  · intro hids nodes nodes' hnodes hnodes'
    have hown := ManifestNode.haveOwnIds_of_nodup hids
    have hlist : ManifestNode.incremental nodes = m.incrementalModels :=
      ManifestNode.incremental_eq_of_perm hown hnodes
    refine ⟨hlist.trans (ManifestNode.incremental_eq_of_perm hown hnodes').symm, fun r => ?_⟩
    rw [hlist, CommandLine.listModels, CommandLine.modelTargets, List.map_map, List.map_map]
    rfl

/-- Two models whose names come in another order than their ids, and the nodes listed backwards. -/
theorem incremental_models_by_id_renamed :
    let node (id : String) : ManifestNode :=
      { uniqueId := id, name := "t", resourceType := "model", packageName := "shop", path := "t.sql"
        filePath := "models/t.sql", settings := { materialized := some "incremental" } }
    let m : Manifest :=
      { metadata := ⟨"v11", "1.9.0", "2024-05-01", none⟩
        nodes := ⟨[("a", node "model.shop.z"), ("b", node "model.shop.c")], by decide⟩ }
    ((m.nodes.values.filter (·.isIncremental)).map (·.uniqueId)).Nodup
      ∧ ManifestNode.incremental m.nodes.values.reverse = ManifestNode.incremental m.nodes.values
      ∧ m.incrementalModels.map (·.uniqueId) = ["model.shop.c", "model.shop.z"] := by
  intro node m
  have hids : ((m.nodes.values.filter (·.isIncremental)).map (·.uniqueId)).Nodup := by decide
  obtain ⟨-, -, -, hlists⟩ := incremental_models_by_id m
  have hsame := (hlists hids _ _ (List.reverse_perm _) (List.Perm.refl _)).1
  refine ⟨hids, hsame, ?_⟩
  have hbackwards : m.nodes.values.reverse = [node "model.shop.c", node "model.shop.z"] := rfl
  have hfilter : [node "model.shop.c", node "model.shop.z"].filter (·.isIncremental)
      = [node "model.shop.c", node "model.shop.z"] := rfl
  -- listed backwards the models are sorted already
  rw [Manifest.incrementalModels, ← hsame, hbackwards, ManifestNode.incremental, hfilter,
    List.mergeSort_of_pairwise (by decide)]
  rfl

end SchemaDrift
