import Mathlib.Data.String.Basic
import Mathlib.Order.Compare
import MiddleEnd.NameTable.Lookup

/-!
# The order of a name table

A table is searched by name, so every name has to lie on the side where a search for it goes. The
statements here are about the sequence of chains alone; rotations do not change it.

* `Ordered` — every name anywhere to the left of a node is smaller, every name anywhere to the
  right is greater. This is the sequence of chains ascending (`ordered_iff_pairwise`).
* `Cut t name smaller o greater` — the chains of `t` are those with smaller names, the chain `o` of
  the name if there is one, and those with greater names. Every name cuts an ordered table
  (`exists_cut`).
* `Replaces t name o t'` — `t'` has the chain `o`, or none, under a name, and is `t` elsewhere.
  It keeps the order (`Replaces.ordered`) and decides every lookup (`Replaces.chain?`).

**Updates replace one chain**: `replaces_insert` and `replaces_erase` say which. No other fact
about inserting or erasing is needed to know what a table holds.
-/

namespace MiddleEnd

variable {V : Type}

/-! ## Chains -/

namespace Chain

/-- All bindings of a chain have one name, and there is a binding. -/
def Uniform (c : Chain V) : Prop :=
  c.toList ≠ [] ∧ ∀ a ∈ c.toList, ∀ b ∈ c.toList, a.name = b.name

/-- In a uniform chain every binding has the name of the chain. -/
lemma uniform_iff {c : Chain V} : c.Uniform ↔ ∀ b ∈ c.toList, b.name = c.name := by
  constructor
  · intro h b hb
    exact h.2 b hb c.newest List.mem_cons_self
  · intro h
    exact ⟨c.toList_ne_nil, fun a ha b hb => (h a ha).trans (h b hb).symm⟩

/-- The bindings of a name, given its chain if it has one. -/
def entries : Option (Chain V) → List (Binding V)
  | some c => c.toList
  | none => []

@[simp] lemma entries_some (c : Chain V) : entries (some c) = c.toList := rfl

@[simp] lemma entries_none : entries (none : Option (Chain V)) = [] := rfl

@[simp] lemma entries_ofList? (bs : List (Binding V)) : entries (ofList? bs) = bs := by
  cases bs <;> rfl

/-- The bindings of a name, gathered from the chains that it has: one or none. -/
lemma flatMap_toList_eq_entries (o : Option (Chain V)) : o.toList.flatMap toList = entries o := by
  rcases o with _ | c
  · rfl
  · exact List.flatMap_singleton _ _

/-- A name has one chain, or none when it has no bindings. -/
lemma length_toList_option (o : Option (Chain V)) :
    o.toList.length = if entries o = [] then 0 else 1 := by
  rcases o with _ | c
  · rfl
  · exact (if_neg c.toList_ne_nil).symm

@[simp] lemma toList_extend (b : Binding V) (o : Option (Chain V)) :
    (extend b o).toList = b :: entries o := by
  cases o <;> rfl

@[simp] lemma name_extend (b : Binding V) (o : Option (Chain V)) :
    (extend b o).name = b.name := by
  cases o <;> rfl

/-- The name of an extended chain, where it is the chain of a name. -/
lemma name_of_mem_extend (b : Binding V) (o : Option (Chain V)) :
    ∀ c ∈ some (extend b o), c.name = b.name := by
  intro c hc
  rw [← Option.mem_some_iff.mp hc, name_extend]

/-- The chain that an identifier leaves behind; nothing, too, when no binding is the same. -/
def without (c : Chain V) (i : Ident) : Option (Chain V) :=
  (c.unlink i).join

/-- What an identifier leaves behind: all but the newest binding that is the same, or nothing. -/
lemma entries_without (c : Chain V) (i : Ident) :
    entries (c.without i) =
      if c.toList.any (·.ident.same i) then c.toList.eraseP (·.ident.same i) else [] := by
  rw [without, unlink_eq]
  split_ifs
  · exact entries_ofList? _
  · rfl

/-- What is left of a chain is part of it. -/
lemma mem_of_mem_entries_without {c : Chain V} {i : Ident} {b : Binding V}
    (h : b ∈ entries (c.without i)) : b ∈ c.toList := by
  rw [entries_without] at h
  split_ifs at h
  · exact List.mem_of_mem_eraseP h
  · exact absurd h List.not_mem_nil

/-- What is left of a uniform chain is uniform and has the same name. -/
lemma Uniform.without {c rest : Chain V} (hc : c.Uniform) {i : Ident}
    (h : rest ∈ c.without i) : rest.Uniform ∧ rest.name = c.name := by
  have hsub : ∀ b ∈ rest.toList, b ∈ c.toList := by
    intro b hb
    apply mem_of_mem_entries_without (i := i)
    rwa [Option.mem_def.mp h]
  have hname := uniform_iff.mp hc
  have hrest : rest.name = c.name := hname rest.newest (hsub _ List.mem_cons_self)
  refine ⟨uniform_iff.mpr fun b hb => ?_, hrest⟩
  rw [hname b (hsub b hb), hrest]

/-- A uniform chain stays uniform under a binding of its name. -/
lemma uniform_extend {b : Binding V} {o : Option (Chain V)}
    (ho : ∀ c ∈ o, c.Uniform ∧ c.name = b.name) : (extend b o).Uniform := by
  rw [uniform_iff]
  intro a ha
  rw [toList_extend] at ha
  rw [name_extend]
  rcases List.mem_cons.mp ha with rfl | ha
  · rfl
  · cases o with
    | none => exact absurd ha List.not_mem_nil
    | some c =>
        obtain ⟨hc, hn⟩ := ho c rfl
        rw [uniform_iff.mp hc a ha, hn]

end Chain

namespace NameTable

/-! ## Ordered tables -/

/-- Every name anywhere in the left subtree of a node is smaller than its own, and every name
anywhere in the right subtree is greater. -/
def Ordered : NameTable V → Prop
  | empty => True
  | node left chain right _ =>
      left.Ordered ∧ right.Ordered ∧
        (∀ c ∈ left.chains, c.name < chain.name) ∧ (∀ c ∈ right.chains, chain.name < c.name)

/-- An ordered table is one whose chains ascend. -/
lemma ordered_iff_pairwise {t : NameTable V} :
    t.Ordered ↔ t.chains.Pairwise (fun a b => a.name < b.name) := by
  induction t with
  | empty => exact ⟨fun _ => List.Pairwise.nil, fun _ => trivial⟩
  | node left chain right height ihl ihr =>
      rw [Ordered, ihl, ihr, chains, List.pairwise_append, List.pairwise_cons]
      constructor
      · rintro ⟨hl, hr, hlt, hgt⟩
        refine ⟨hl, ⟨hgt, hr⟩, fun a ha b hb => ?_⟩
        rcases List.mem_cons.mp hb with rfl | hb
        · exact hlt a ha
        · exact lt_trans (hlt a ha) (hgt b hb)
      · rintro ⟨hl, ⟨hgt, hr⟩, hacross⟩
        exact ⟨hl, hr, fun a ha => hacross a ha chain List.mem_cons_self, hgt⟩

/-- A lookup in an ordered table finds exactly the chain that has the name. -/
lemma chain?_eq_some_iff {t : NameTable V} (h : t.Ordered) {name : String} {c : Chain V} :
    t.chain? name = some c ↔ c ∈ t.chains ∧ c.name = name := by
  induction t with
  | empty => simp [chain?, chains]
  | node left chain right height ihl ihr =>
      obtain ⟨hl, hr, hlt, hgt⟩ := h
      rw [chain?, chains, List.mem_append, List.mem_cons]
      rcases lt_trichotomy name chain.name with hn | rfl | hn
      · rw [compare_lt_iff_lt.mpr hn]
        refine (ihl hl).trans ⟨fun hc => ⟨.inl hc.1, hc.2⟩, ?_⟩
        rintro ⟨hc | rfl | hc, rfl⟩
        · exact ⟨hc, rfl⟩
        · exact absurd hn (lt_irrefl _)
        · exact absurd (hgt c hc) (lt_asymm hn)
      · rw [compare_eq_iff_eq.mpr rfl, Option.some_inj]
        refine ⟨fun hc => ⟨.inr (.inl hc.symm), hc ▸ rfl⟩, ?_⟩
        rintro ⟨hc | rfl | hc, hname⟩
        · exact absurd (hname ▸ hlt c hc) (lt_irrefl _)
        · rfl
        · exact absurd (hname ▸ hgt c hc) (lt_irrefl _)
      · rw [compare_gt_iff_gt.mpr hn]
        refine (ihr hr).trans ⟨fun hc => ⟨.inr (.inr hc.1), hc.2⟩, ?_⟩
        rintro ⟨hc | rfl | hc, rfl⟩
        · exact absurd (hlt c hc) (lt_asymm hn)
        · exact absurd hn (lt_irrefl _)
        · exact ⟨hc, rfl⟩

/-! ## Cutting a table at a name -/

/-- The chains of a table are those of smaller names, the chain of a name, if there is one, and
those of greater names. -/
structure Cut (t : NameTable V) (name : String) (smaller : List (Chain V))
    (here : Option (Chain V)) (greater : List (Chain V)) : Prop where
  /-- Nothing else is in the table. -/
  chains_eq : t.chains = smaller ++ (here.toList ++ greater)
  /-- The smaller names. -/
  smaller_lt : ∀ c ∈ smaller, c.name < name
  /-- The name itself. -/
  here_eq : ∀ c ∈ here, c.name = name
  /-- The greater names. -/
  lt_greater : ∀ c ∈ greater, name < c.name

section cut

variable {left right : NameTable V} {chain : Chain V} {height : Nat} {name : String}
  {smaller greater : List (Chain V)} {here : Option (Chain V)}

/-- A cut of the left subtree is one of the node. -/
lemma Cut.node_left (h : (node left chain right height).Ordered) (hn : name < chain.name)
    (hc : Cut left name smaller here greater) :
    Cut (node left chain right height) name smaller here (greater ++ chain :: right.chains) := by
  obtain ⟨-, -, -, hgt⟩ := h
  refine ⟨?_, hc.smaller_lt, hc.here_eq, fun c hmem => ?_⟩
  · rw [chains, hc.chains_eq, List.append_assoc, List.append_assoc]
  · rcases List.mem_append.mp hmem with hmem | hmem
    · exact hc.lt_greater c hmem
    · rcases List.mem_cons.mp hmem with rfl | hmem
      · exact hn
      · exact lt_trans hn (hgt c hmem)

/-- A cut of the right subtree is one of the node. -/
lemma Cut.node_right (h : (node left chain right height).Ordered) (hn : chain.name < name)
    (hc : Cut right name smaller here greater) :
    Cut (node left chain right height) name (left.chains ++ chain :: smaller) here greater := by
  obtain ⟨-, -, hlt, -⟩ := h
  refine ⟨?_, fun c hmem => ?_, hc.here_eq, hc.lt_greater⟩
  · rw [chains, hc.chains_eq, List.append_assoc, List.cons_append]
  · rcases List.mem_append.mp hmem with hmem | hmem
    · exact lt_trans (hlt c hmem) hn
    · rcases List.mem_cons.mp hmem with rfl | hmem
      · exact hn
      · exact hc.smaller_lt c hmem

/-- A node is cut at its own name by its subtrees. -/
lemma cut_node_self (h : (node left chain right height).Ordered) :
    Cut (node left chain right height) chain.name left.chains (some chain) right.chains := by
  obtain ⟨-, -, hlt, hgt⟩ := h
  refine ⟨rfl, hlt, fun c hc => ?_, hgt⟩
  rw [Option.mem_some_iff.mp hc]

end cut

/-- Every ordered table is cut at every name by the chain that a lookup finds. -/
lemma exists_cut {t : NameTable V} (h : t.Ordered) (name : String) :
    ∃ smaller greater, Cut t name smaller (t.chain? name) greater := by
  induction t with
  | empty => exact ⟨[], [], rfl, nofun, nofun, nofun⟩
  | node left chain right height ihl ihr =>
      rw [chain?]
      rcases lt_trichotomy name chain.name with hn | rfl | hn
      · rw [compare_lt_iff_lt.mpr hn]
        obtain ⟨smaller, greater, hc⟩ := ihl h.1
        exact ⟨_, _, hc.node_left h hn⟩
      · rw [compare_eq_iff_eq.mpr rfl]
        exact ⟨_, _, cut_node_self h⟩
      · rw [compare_gt_iff_gt.mpr hn]
        obtain ⟨smaller, greater, hc⟩ := ihr h.2.1
        exact ⟨_, _, hc.node_right h hn⟩

/-! ## Replacing the chain of one name -/

/-- The second table is the first with another chain, or none, under a name. -/
def Replaces (t : NameTable V) (name : String) (new : Option (Chain V)) (t' : NameTable V) :
    Prop :=
  ∃ smaller greater,
    Cut t name smaller (t.chain? name) greater ∧ t'.chains = smaller ++ (new.toList ++ greater)

section replaces

variable {left right t t' u : NameTable V} {chain : Chain V} {height : Nat} {name : String}
  {new : Option (Chain V)}

/-- To replace a chain in the left subtree is to replace it in the node. -/
lemma Replaces.node_left (h : (node left chain right height).Ordered) (hn : name < chain.name)
    (hr : Replaces left name new u) (ht' : t'.chains = u.chains ++ chain :: right.chains) :
    Replaces (node left chain right height) name new t' := by
  obtain ⟨smaller, greater, hc, hu⟩ := hr
  refine ⟨smaller, greater ++ chain :: right.chains, ?_, ?_⟩
  · rw [chain?, compare_lt_iff_lt.mpr hn]
    exact hc.node_left h hn
  · rw [ht', hu, List.append_assoc, List.append_assoc]

/-- To replace a chain in the right subtree is to replace it in the node. -/
lemma Replaces.node_right (h : (node left chain right height).Ordered) (hn : chain.name < name)
    (hr : Replaces right name new u) (ht' : t'.chains = left.chains ++ chain :: u.chains) :
    Replaces (node left chain right height) name new t' := by
  obtain ⟨smaller, greater, hc, hu⟩ := hr
  refine ⟨left.chains ++ chain :: smaller, greater, ?_, ?_⟩
  · rw [chain?, compare_gt_iff_gt.mpr hn]
    exact hc.node_right h hn
  · rw [ht', hu, List.append_assoc, List.cons_append]

/-- The chain of a node is replaced between its subtrees. -/
lemma replaces_node_self (h : (node left chain right height).Ordered)
    (ht' : t'.chains = left.chains ++ (new.toList ++ right.chains)) :
    Replaces (node left chain right height) chain.name new t' := by
  refine ⟨left.chains, right.chains, ?_, ht'⟩
  rw [chain?, compare_eq_iff_eq.mpr rfl]
  exact cut_node_self h

/-- Under a new chain, the other names keep theirs. -/
lemma Replaces.mem_chains (hr : Replaces t name new t') {c : Chain V} :
    c ∈ t'.chains ↔ c ∈ new ∨ c ∈ t.chains ∧ c.name ≠ name := by
  obtain ⟨smaller, greater, hc, heq⟩ := hr
  rw [heq, hc.chains_eq]
  simp only [List.mem_append, Option.mem_toList]
  constructor
  · rintro (hs | hnew | hg)
    · exact .inr ⟨.inl hs, ne_of_lt (hc.smaller_lt c hs)⟩
    · exact .inl hnew
    · exact .inr ⟨.inr (.inr hg), ne_of_gt (hc.lt_greater c hg)⟩
  · rintro (hnew | ⟨hs | hh | hg, hne⟩)
    · exact .inr (.inl hnew)
    · exact .inl hs
    · exact absurd (hc.here_eq c hh) hne
    · exact .inr (.inr hg)

/-- A new chain of the right name keeps the order. -/
lemma Replaces.ordered (hr : Replaces t name new t') (h : t.Ordered)
    (hnew : ∀ c ∈ new, c.name = name) : t'.Ordered := by
  obtain ⟨smaller, greater, hc, heq⟩ := hr
  rw [ordered_iff_pairwise] at h ⊢
  rw [hc.chains_eq, List.pairwise_append, List.pairwise_append] at h
  obtain ⟨hs, ⟨-, hg, -⟩, -⟩ := h
  rw [heq, List.pairwise_append, List.pairwise_append]
  refine ⟨hs, ⟨?_, hg, fun a ha b hb => ?_⟩, fun a ha b hb => ?_⟩
  · cases new <;> simp
  · rw [hnew a (Option.mem_toList.mp ha)]
    exact hc.lt_greater b hb
  · rcases List.mem_append.mp hb with hb | hb
    · rw [hnew b (Option.mem_toList.mp hb)]
      exact hc.smaller_lt a ha
    · exact lt_trans (hc.smaller_lt a ha) (hc.lt_greater b hb)

/-- Lookups see the new chain under its name, and elsewhere what they saw before. -/
lemma Replaces.chain? (hr : Replaces t name new t') (h : t.Ordered)
    (hnew : ∀ c ∈ new, c.name = name) (other : String) :
    t'.chain? other = if other = name then new else t.chain? other := by
  have h' := hr.ordered h hnew
  apply Option.ext
  intro c
  rw [chain?_eq_some_iff h', hr.mem_chains]
  split_ifs with ho
  · subst ho
    constructor
    · rintro ⟨hc | ⟨-, hne⟩, hname⟩
      · exact hc
      · exact absurd hname hne
    · intro hc
      exact ⟨.inl hc, hnew c hc⟩
  · rw [chain?_eq_some_iff h]
    constructor
    · rintro ⟨hc | ⟨hc, -⟩, hname⟩
      · exact absurd (hname.symm.trans (hnew c hc)) ho
      · exact ⟨hc, hname⟩
    · rintro ⟨hc, rfl⟩
      exact ⟨.inr ⟨hc, ho⟩, rfl⟩

end replaces

/-! ## What updates replace -/

/-- Inserting puts a binding in front of the chain of its name. -/
theorem replaces_insert {t : NameTable V} (h : t.Ordered) (b : Binding V) :
    Replaces t b.name (some (.extend b (t.chain? b.name))) (t.insert b) := by
  induction t with
  | empty => exact ⟨[], [], ⟨rfl, nofun, nofun, nofun⟩, rfl⟩
  | node left chain right height ihl ihr =>
      rcases lt_trichotomy b.name chain.name with hn | hn | hn
      · have hcmp := compare_lt_iff_lt.mpr hn
        rw [insert_node, chain?, hcmp]
        exact (ihl h.1).node_left h hn (chains_balance _ _ _)
      · rw [insert_node, chain?, hn, compare_eq_iff_eq.mpr rfl]
        exact replaces_node_self h rfl
      · have hcmp := compare_gt_iff_gt.mpr hn
        rw [insert_node, chain?, hcmp]
        exact (ihr h.2.1).node_right h hn (chains_balance _ _ _)

/-- Erasing at a node leaves what the chain leaves behind, between the subtrees. -/
lemma chains_eraseHere (i : Ident) (left : NameTable V) (chain : Chain V) (right : NameTable V)
    (height : Nat) :
    (eraseHere i left chain right height).table.chains =
      left.chains ++ ((chain.without i).toList ++ right.chains) := by
  rw [eraseHere_eq, Chain.without]
  split
  · next rest hrest => simp [hrest, chains]
  · next hnone => simp [hnone]
  · next hnone => simp [hnone]

/-- A removal happens where the name is bound, and replaces its chain by what is left of it. -/
lemma replaces_of_erase?_eq_some {t : NameTable V} (h : t.Ordered) {i : Ident} {r : Removal V}
    (hr : t.erase? i = some r) :
    ∃ c, t.chain? i.name = some c ∧ Replaces t i.name (c.without i) r.table := by
  induction t generalizing r with
  | empty => exact absurd hr nofun
  | node left chain right height ihl ihr =>
      rw [erase?_node] at hr
      rcases lt_trichotomy i.name chain.name with hn | hn | hn
      · rw [compare_lt_iff_lt.mpr hn] at hr
        obtain ⟨r', hr', rfl⟩ := Option.map_eq_some_iff.mp hr
        obtain ⟨c, hc, hrep⟩ := ihl h.1 hr'
        refine ⟨c, ?_, hrep.node_left h hn (chains_balance _ _ _)⟩
        rw [chain?, compare_lt_iff_lt.mpr hn]
        exact hc
      · rw [compare_eq_iff_eq.mpr hn] at hr
        cases hr
        refine ⟨chain, ?_, ?_⟩
        · rw [chain?, compare_eq_iff_eq.mpr hn]
        · rw [hn]
          exact replaces_node_self h (chains_eraseHere i left chain right height)
      · rw [compare_gt_iff_gt.mpr hn] at hr
        obtain ⟨r', hr', rfl⟩ := Option.map_eq_some_iff.mp hr
        obtain ⟨c, hc, hrep⟩ := ihr h.2.1 hr'
        refine ⟨c, ?_, hrep.node_right h hn (chains_balance _ _ _)⟩
        rw [chain?, compare_gt_iff_gt.mpr hn]
        exact hc

/-- There is nothing to remove exactly where a lookup finds nothing. -/
lemma erase?_eq_none_iff {t : NameTable V} {i : Ident} :
    t.erase? i = none ↔ t.chain? i.name = none := by
  induction t with
  | empty => simp [erase?_empty, chain?]
  | node left chain right height ihl ihr =>
      rw [erase?_node, chain?]
      cases compare i.name chain.name with
      | eq => simp
      | lt => exact Option.map_eq_none_iff.trans ihl
      | gt => exact Option.map_eq_none_iff.trans ihr

/-- Erasing replaces the chain of the name by what is left of it. -/
theorem replaces_erase {t : NameTable V} (h : t.Ordered) (i : Ident) :
    Replaces t i.name ((t.chain? i.name).bind (·.without i)) (t.erase i) := by
  unfold erase
  split
  · next r hr =>
    obtain ⟨c, hc, hrep⟩ := replaces_of_erase?_eq_some h hr
    rw [hc, Option.bind_some]
    exact hrep
  · next hnone =>
    have hchain := erase?_eq_none_iff.mp hnone
    obtain ⟨smaller, greater, hcut⟩ := exists_cut h i.name
    refine ⟨smaller, greater, hcut, ?_⟩
    rw [hcut.chains_eq, hchain, Option.bind_none]

end NameTable

end MiddleEnd
