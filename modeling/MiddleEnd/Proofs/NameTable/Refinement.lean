import Mathlib.Logic.Function.Basic
import MiddleEnd.NameTable.Walk
import MiddleEnd.Proofs.NameTable.Invariant

/-!
# What a name table means

Apart from its tree, a table is a function from names to lists of bindings, newest first. Updates
of that function can be written down without any search:

* `Meaning.insert` puts a binding in front of the list of its name;
* `Meaning.erase` takes the first binding that is the same as an identifier out of the list of the
  identifier's name, or empties the list when there is no such binding;
* both leave every other name alone.

`meaning_insert` and `meaning_erase` say that the updates of a table do just that, and
`meaning_run` extends this to histories. The searches of a table are searches in these lists
(`search_of_updates`): also a cursor, which may be advanced, kept and drained at any place.
-/

namespace MiddleEnd

variable {V : Type}

/-! ## Bindings by name -/

/-- The bindings of every name, newest first. -/
abbrev Meaning (V : Type) := String → List (Binding V)

namespace Meaning

/-- Nothing is bound. -/
def nothing : Meaning V := fun _ => []

/-- What is left of the bindings of a name when an identifier is removed: the first binding that
is the same is taken out; without one, nothing is left. -/
def remaining (i : Ident) (bs : List (Binding V)) : List (Binding V) :=
  if bs.any (·.ident.same i) then bs.eraseP (·.ident.same i) else []

/-- Makes a binding. -/
def insert (m : Meaning V) (b : Binding V) : Meaning V :=
  Function.update m b.name (b :: m b.name)

/-- Removes an identifier. -/
def erase (m : Meaning V) (i : Ident) : Meaning V :=
  Function.update m i.name (remaining i (m i.name))

/-- Makes a change. -/
def update (m : Meaning V) : NameTable.Update V → Meaning V
  | .insert b => m.insert b
  | .erase i => m.erase i

/-- Makes changes one after the other. -/
def run (m : Meaning V) (us : List (NameTable.Update V)) : Meaning V :=
  us.foldl update m

end Meaning

namespace NameTable

/-- What a table means. -/
def meaning (t : NameTable V) : Meaning V := fun name => t.bindingsOf name

/-- The bindings of a name are those of the chain that a lookup finds. -/
lemma bindingsOf_eq_entries (t : NameTable V) (name : String) :
    t.bindingsOf name = Chain.entries (t.chain? name) := by
  unfold bindingsOf cursor
  cases t.chain? name <;> rfl

/-- Every binding of a table is found under its name. -/
lemma mem_toList_iff {t : NameTable V} (h : t.Invariant) {b : Binding V} :
    b ∈ t.toList ↔ b ∈ t.bindingsOf b.name := by
  rw [toList_eq_flatMap, bindingsOf_eq_entries, List.mem_flatMap]
  constructor
  · rintro ⟨c, hc, hb⟩
    have hname : c.name = b.name := (Chain.uniform_iff.mp (h.uniform c hc) b hb).symm
    rwa [(chain?_eq_some_iff h.ordered).mpr ⟨hc, hname⟩]
  · intro hb
    cases hc : t.chain? b.name with
    | none =>
        rw [hc] at hb
        cases hb
    | some c =>
        rw [hc] at hb
        exact ⟨c, ((chain?_eq_some_iff h.ordered).mp hc).1, hb⟩

/-- What is left of a name, by chain or by list. -/
lemma entries_bind_without (o : Option (Chain V)) (i : Ident) :
    Chain.entries (o.bind (·.without i)) = Meaning.remaining i (Chain.entries o) := by
  cases o with
  | none => rfl
  | some c => exact Chain.entries_without c i

/-! ## Updates -/

/-- A replaced chain changes the bindings of its name, and of no other. -/
lemma Replaces.meaning_eq {t t' : NameTable V} {name : String} {new : Option (Chain V)}
    (hr : Replaces t name new t') (h : t.Ordered) (hnew : ∀ c ∈ new, c.name = name) :
    t'.meaning = Function.update t.meaning name (Chain.entries new) := by
  funext other
  rw [meaning, bindingsOf_eq_entries, hr.chain? h hnew]
  by_cases ho : other = name
  · subst ho
    rw [if_pos rfl, Function.update_self]
  · rw [if_neg ho, Function.update_of_ne ho, meaning, bindingsOf_eq_entries]

/-- Inserting puts the binding in front of those of its name. -/
lemma meaning_insert {t : NameTable V} (h : t.Invariant) (b : Binding V) :
    (t.insert b).meaning = t.meaning.insert b := by
  rw [(replaces_insert h.ordered b).meaning_eq h.ordered (Chain.name_of_mem_extend b _),
    Meaning.insert, Chain.entries_some, Chain.toList_extend, meaning, bindingsOf_eq_entries]

/-- The bindings of a name after one more binding is made, of this name or of another. -/
lemma bindingsOf_insert {t : NameTable V} (h : t.Invariant) (b : Binding V) (name : String) :
    (t.insert b).bindingsOf name =
      if b.name = name then b :: t.bindingsOf name else t.bindingsOf name := by
  have hname := congrFun (meaning_insert h b) name
  rw [Meaning.insert, Function.update_apply] at hname
  by_cases hn : b.name = name
  · subst hn
    rw [if_pos rfl] at hname ⊢
    exact hname
  · rw [if_neg (Ne.symm hn)] at hname
    rw [if_neg hn]
    exact hname

/-- Erasing takes out the first binding that is the same, or all of the name. -/
lemma meaning_erase {t : NameTable V} (h : t.Invariant) (i : Ident) :
    (t.erase i).meaning = t.meaning.erase i := by
  have hname := fun c hc => (h.left_behind i c hc).2
  rw [(replaces_erase h.ordered i).meaning_eq h.ordered hname, Meaning.erase,
    entries_bind_without, meaning, bindingsOf_eq_entries]

/-- One change of a table is the same change of what it means. -/
lemma meaning_update {t : NameTable V} (h : t.Invariant) (u : Update V) :
    (t.update u).meaning = t.meaning.update u := by
  cases u with
  | insert b => exact meaning_insert h b
  | erase i => exact meaning_erase h i

/-- A history of a table is the same history of what it means. -/
lemma meaning_run {t : NameTable V} (h : t.Invariant) (us : List (Update V)) :
    (t.run us).meaning = t.meaning.run us := by
  induction us generalizing t with
  | nil => rfl
  | cons u us ih =>
      rw [run_cons, ih (h.update u), meaning_update h]
      rfl

end NameTable

/-! ## Searches -/

/-- The answers of a cursor are the bindings to come, one by one and then none, and what it has
not answered yet is still to come. -/
lemma Cursor.take_eq (c : Cursor V) (k : Nat) :
    c.take k = ((List.range k).map (c.rest[·]?), ⟨c.rest.drop k⟩) := by
  induction k generalizing c with
  | zero => rfl
  | succ k ih =>
      obtain ⟨rest⟩ := c
      rw [Cursor.take, List.range_succ_eq_map]
      cases rest with
      | nil => simp [Cursor.next, ih, Function.comp_def]
      | cons b bs => simp [Cursor.next, ih, Function.comp_def]

namespace NameTable

/-- The newest binding of a name is the first of its bindings. -/
lemma newest?_eq_head? (t : NameTable V) (name : String) :
    t.newest? name = (t.meaning name).head? := by
  unfold newest? meaning bindingsOf Cursor.next Cursor.drain
  cases (t.cursor name).rest <;> rfl

/-- **A name table is a function from names to bindings, newest first.** After every history of
the empty table, the bindings of a name are what the same history makes of the function that binds
nothing; the newest binding is the first of them; a binding of an identifier is looked for among
those of its name, and the first that is the same is taken; and a cursor answers them one by one,
at every place of which the rest can be drained or answered further. -/
theorem search_of_updates (us : List (Update V)) :
    let t := (empty : NameTable V).run us
    let m := (Meaning.nothing : Meaning V).run us
    (∀ name, t.bindingsOf name = m name) ∧
      (∀ name, t.newest? name = (m name).head?) ∧
      (∀ i, t.find? i = ((m i.name).find? (·.ident.same i)).map (·.data)) ∧
      ∀ name k,
        ((t.cursor name).take k).1 = (List.range k).map ((m name)[·]?) ∧
          ((t.cursor name).take k).2.drain = (m name).drop k ∧
          ∀ n, (((t.cursor name).take k).2.take n).1 =
            (List.range n).map fun j => (m name)[k + j]? := by
  intro t m
  have hm : t.meaning = m := meaning_run invariant_empty us
  have hrest : ∀ name, (t.cursor name).rest = m name := fun name => congrFun hm name
  refine ⟨fun name => congrFun hm name, fun name => ?_, fun i => ?_, fun name k => ?_⟩
  · rw [newest?_eq_head?, hm]
  · rw [find?, Cursor.drain, hrest]
  · rw [Cursor.take_eq, hrest]
    refine ⟨rfl, rfl, fun n => ?_⟩
    rw [Cursor.take_eq]
    simp only [List.getElem?_drop]

end NameTable

end MiddleEnd
