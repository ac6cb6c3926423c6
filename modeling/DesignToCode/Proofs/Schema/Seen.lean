import DesignToCode.Proofs.Schema.Gate

set_option autoImplicit false

namespace DesignToCode

open Validation Report Reader

/-- The items of a list that may be left out. -/
theorem forall₂_itemsOf {α : Type} {read : Reader α} {fields : Fields} {key : String}
    {items : List α} (read_ok : defaulted fields key key (tuple read) [] = .ok items) :
    List.Forall₂ (fun v a => read v = .ok a) (itemsOf fields key) items := by
  rcases defaulted_eq_ok_iff.mp read_ok with ⟨v, found, all⟩ | ⟨absent, rfl⟩
  · obtain ⟨values, rfl, all⟩ := tuple_eq_ok_iff.mp all
    rwa [itemsOf, found]
  · rw [itemsOf, absent]
    exact .nil

/-- A check that finds the same in an item and in its stored form does so in a list of them. -/
theorem each_of_read {α : Type} {read : Reader α} (write : α → Json) (check : Nat → Json → Report)
    {values : List Json} {items : List α}
    (all : List.Forall₂ (fun v a => read v = .ok a) values items)
    (same : ∀ i v a, read v = .ok a → check i v = check i (write a)) (i : Nat) :
    each check i values = each check i (items.map write) := by
  induction all generalizing i with
  | nil => rfl
  | cons first rest ih => rw [List.map_cons, each, each, same i _ _ first, ih]

theorem Section.referencedBy_of_read {v : Json} {sec : Section} (read : Section.read v = .ok sec) :
    referencedBy v = sec.components := by
  obtain ⟨fields, rfl, -, -, -, -, components, -⟩ := Section.read_eq_ok_iff.mp read
  show (itemsOf fields "components").filterMap string? = sec.components
  unfold itemsOf
  rcases defaulted_eq_ok_iff.mp components with ⟨v, found, refs⟩ | ⟨absent, none⟩
  · rw [tuple_string_eq_ok_iff] at refs
    rw [found, refs]
    exact filterMap_map_eq_self fun _ _ => rfl
  · rw [absent, ← none]
    rfl

theorem Section.flatMap_referencedBy {items : List Json} {sections : List Section}
    (all : List.Forall₂ (fun v sec => Section.read v = .ok sec) items sections) :
    items.flatMap referencedBy = sections.flatMap (·.components) := by
  induction all with
  | nil => rfl
  | cons first rest ih =>
    rw [List.flatMap_cons, List.flatMap_cons, Section.referencedBy_of_read first, ih]

theorem LayerRule.layer_of_read {known : List String} {i : Nat} {v : Json} {l : LayerRule}
    (read : LayerRule.read v = .ok l) : layer known i v = layer known i l.toJson := by
  obtain ⟨fields, rfl, target, -⟩ := LayerRule.read_eq_ok_iff.mp read
  rw [required_string_eq_ok_iff] at target
  have name : targetOf? (.obj fields) = targetOf? l.toJson := by
    rw [targetOf?, target]
    rfl
  have shown : targetShown (.obj fields) = targetShown l.toJson := by
    rw [targetShown, target]
    rfl
  simp only [layer, layer.unknown, name, shown]

theorem Layering.layers_of_read {known : List String} {fields layering : Fields} {l : Layering}
    (held : fields.lookup "layering" = some (.obj layering))
    (read : Layering.read (.obj layering) = .ok l) :
    Validation.layers known fields = each (layer known) 0 (l.layers.map LayerRule.toJson) := by
  obtain ⟨_, same, -, items⟩ := Layering.read_eq_ok_iff.mp read
  cases same
  simp only [Validation.layers, held]
  exact each_of_read LayerRule.toJson (layer known) (forall₂_itemsOf items)
    (fun _ _ _ => LayerRule.layer_of_read) 0

theorem ResponsiveChange.change_of_read {known : List String} {i j : Nat} {v : Json}
    {c : ResponsiveChange} (read : ResponsiveChange.read v = .ok c) :
    change known i j v = change known i j (c.toJson .omitted) := by
  obtain ⟨fields, rfl, target, -⟩ := ResponsiveChange.read_eq_ok_iff.mp read
  rw [required_string_eq_ok_iff] at target
  have name : targetOf? (.obj fields) = targetOf? (c.toJson .omitted) := by
    rw [targetOf?, target]
    rfl
  rw [change, change, name]

/-- What is found at the changes of a rule in stored form. -/
def ResponsiveRule.changesReport (known : List String) (i : Nat) (r : ResponsiveRule) : Report :=
  each (change known i) 0 (r.rules.map (ResponsiveChange.toJson .omitted))

theorem ResponsiveRule.changes_of_read {known : List String} {i : Nat} {fields : Fields}
    {r : ResponsiveRule} (read : ResponsiveRule.read (.obj fields) = .ok r) :
    changes known i fields = r.changesReport known i := by
  obtain ⟨_, same, -, -, rules⟩ := ResponsiveRule.read_eq_ok_iff.mp read
  cases same
  rcases defaulted_eq_ok_iff.mp rules with ⟨v, found, items⟩ | ⟨absent, none⟩
  · obtain ⟨values, rfl, all⟩ := tuple_eq_ok_iff.mp items
    have seen : each (change known i) 0 values = r.changesReport known i :=
      each_of_read _ (change known i) all (fun _ _ _ => ResponsiveChange.change_of_read) 0
    rw [← seen, changes, found]
    cases values <;> rfl
  · rw [changesReport, changes, absent, ← none]
    rfl

end DesignToCode
