import MiddleEnd.Proofs.NameTable.Refinement

/-!
# A global name can be read off its text

The text of a name puts names inside of names: arguments stand in brackets without anything between
them, and the parameter and the value of an argument, on both sides of a colon, may have arguments
of their own. Nothing in the text says how deep a character stands. Still there is one way to read
it, as long as brackets and colons are not part of the heads themselves.

* `Unmarked` — a text without brackets and colons; `GlobalName.HeadsUnmarked` asks this of the
  heads at every level. Empty heads are fine.
* `Follows rest` — what can stand behind a name in a longer text: nothing, a colon or a closing
  bracket. An opening bracket would belong to the name.
* `render_append_inj` — **a name and what follows it are told apart**: texts of names, followed by
  anything of this kind, are equal only if the names are and what follows is. One induction over
  names, lists of arguments and arguments proves it; arbitrary text behind the name is what makes
  the induction go through.

With nothing behind the names this says that different names have different texts
(`rendering_unambiguous`), so that in a table each of them has a chain of its own.
-/

namespace MiddleEnd

namespace GlobalName

/-! ## Marks -/

/-- A character that has a meaning between names. -/
def IsMark (c : Char) : Prop :=
  c = '[' ∨ c = ']' ∨ c = ':'

instance : DecidablePred IsMark :=
  fun c => inferInstanceAs (Decidable (c = '[' ∨ c = ']' ∨ c = ':'))

/-- A text without brackets and colons. -/
def Unmarked (s : String) : Prop :=
  ∀ c ∈ s.toList, ¬ IsMark c

instance (s : String) : Decidable (Unmarked s) :=
  List.decidableBAll _ s.toList

/-- What can stand behind a name: nothing, a colon or a closing bracket. -/
def Follows (rest : List Char) : Prop :=
  ∀ c ∈ rest.head?, c = ']' ∨ c = ':'

/-- Nothing can stand behind a name. -/
lemma follows_nil : Follows [] := nofun

/-- A closing bracket can stand behind a name. -/
lemma follows_bracket (rest : List Char) : Follows (']' :: rest) := by
  intro c hc
  exact .inl (Option.mem_some_iff.mp hc).symm

/-- A colon can stand behind a name. -/
lemma follows_colon (rest : List Char) : Follows (':' :: rest) := by
  intro c hc
  exact .inr (Option.mem_some_iff.mp hc).symm

/-- An opening bracket cannot stand behind a name. -/
lemma not_follows_bracket (rest : List Char) : ¬ Follows ('[' :: rest) := by
  intro h
  rcases h '[' rfl with hc | hc
  · exact absurd hc (by decide)
  · exact absurd hc (by decide)

/-- A part without marks ends where the first mark is. -/
lemma append_inj_of_marks {l k r s : List Char} (hl : ∀ c ∈ l, ¬ IsMark c)
    (hk : ∀ c ∈ k, ¬ IsMark c) (hr : ∀ c ∈ r.head?, IsMark c) (hs : ∀ c ∈ s.head?, IsMark c)
    (h : l ++ r = k ++ s) : l = k ∧ r = s := by
  induction l generalizing k with
  | nil =>
      rcases k with _ | ⟨c, k⟩
      · exact ⟨rfl, h⟩
      · rw [List.nil_append] at h
        exact absurd (hr c (by rw [h]; rfl)) (hk c List.mem_cons_self)
  | cons c l ih =>
      rcases k with _ | ⟨d, k⟩
      · rw [List.nil_append] at h
        exact absurd (hs c (by rw [← h]; rfl)) (hl c List.mem_cons_self)
      · obtain ⟨rfl, htail⟩ := List.cons.inj h
        obtain ⟨rfl, hrest⟩ := ih (fun e he => hl e (List.mem_cons_of_mem c he))
          (fun e he => hk e (List.mem_cons_of_mem c he)) htail
        exact ⟨rfl, hrest⟩

/-! ## Heads -/

mutual

/-- The heads of a name, at every level. -/
def heads : GlobalName → List String
  | ⟨head, args⟩ => head :: headsArgs args

/-- The heads in arguments. -/
def headsArgs : List GlobalArg → List String
  | [] => []
  | arg :: args => headsArg arg ++ headsArgs args

/-- The heads in one argument. -/
def headsArg : GlobalArg → List String
  | ⟨param, value⟩ => heads param ++ heads value

end

/-- No head, at any level, contains a bracket or a colon. -/
def HeadsUnmarked (g : GlobalName) : Prop :=
  ∀ head ∈ g.heads, Unmarked head

instance (g : GlobalName) : Decidable g.HeadsUnmarked :=
  List.decidableBAll _ g.heads

/-! ## Texts as characters -/

/-- A name is written as its head, then its arguments. -/
lemma toList_render (head : String) (args : List GlobalArg) :
    (render ⟨head, args⟩).toList = head.toList ++ (renderArgs args).toList := by
  rw [render, String.toList_append]

/-- The first argument is written in brackets in front of the others. -/
lemma toList_renderArgs_cons (arg : GlobalArg) (args : List GlobalArg) :
    (renderArgs (arg :: args)).toList =
      '[' :: ((renderArg arg).toList ++ ']' :: (renderArgs args).toList) := by
  rw [renderArgs]
  simp [String.toList_append]

/-- An argument is written with a colon between parameter and value. -/
lemma toList_renderArg (param value : GlobalName) :
    (renderArg ⟨param, value⟩).toList = (render param).toList ++ ':' :: (render value).toList := by
  rw [renderArg]
  simp [String.toList_append]

/-- Behind a head, with its arguments and what follows them, the first character is a mark. -/
lemma isMark_of_mem_head? (args : List GlobalArg) {rest : List Char} (h : Follows rest) :
    ∀ c ∈ ((renderArgs args).toList ++ rest).head?, IsMark c := by
  intro c hc
  rcases args with _ | ⟨arg, args⟩
  · exact .inr (h c hc)
  · rw [toList_renderArgs_cons] at hc
    exact .inl (Option.mem_some_iff.mp hc).symm

/-! ## Reading -/

mutual

/-- A name and what follows it are told apart. -/
lemma render_append_inj : (g g' : GlobalName) → {r r' : List Char} →
    (∀ head ∈ g.heads, Unmarked head) → (∀ head ∈ g'.heads, Unmarked head) →
    Follows r → Follows r' → (render g).toList ++ r = (render g').toList ++ r' → g = g' ∧ r = r'
  | ⟨head, args⟩, ⟨head', args'⟩, r, r', hg, hg', hr, hr', h => by
      rw [heads, List.forall_mem_cons] at hg hg'
      rw [toList_render, toList_render, List.append_assoc, List.append_assoc] at h
      obtain ⟨hhead, hrest⟩ := append_inj_of_marks hg.1 hg'.1 (isMark_of_mem_head? args hr)
        (isMark_of_mem_head? args' hr') h
      obtain ⟨rfl, hfollow⟩ := renderArgs_append_inj args args' hg.2 hg'.2 hr hr' hrest
      exact ⟨by rw [String.toList_inj.mp hhead], hfollow⟩

/-- Arguments and what follows them are told apart. -/
lemma renderArgs_append_inj : (args args' : List GlobalArg) → {r r' : List Char} →
    (∀ head ∈ headsArgs args, Unmarked head) → (∀ head ∈ headsArgs args', Unmarked head) →
    Follows r → Follows r' → (renderArgs args).toList ++ r = (renderArgs args').toList ++ r' →
      args = args' ∧ r = r'
  | [], [], _, _, _, _, _, _, h => ⟨rfl, h⟩
  | [], arg :: args, r, r', _, _, hr, _, h => by
      -- The left side is over, and the right side goes on with a bracket.
      rw [toList_renderArgs_cons] at h
      have hr' : r = _ := h
      exact absurd (hr' ▸ hr) (not_follows_bracket _)
  | arg :: args, [], r, r', _, _, _, hr', h => by
      rw [toList_renderArgs_cons] at h
      have hr : _ = r' := h
      exact absurd (hr ▸ hr') (not_follows_bracket _)
  | arg :: args, arg' :: args', r, r', hg, hg', hr, hr', h => by
      rw [headsArgs, List.forall_mem_append] at hg hg'
      rw [toList_renderArgs_cons, toList_renderArgs_cons, List.cons_append, List.cons_append,
        List.append_assoc, List.append_assoc] at h
      obtain ⟨-, htail⟩ := List.cons.inj h
      obtain ⟨rfl, hclosed⟩ := renderArg_append_inj arg arg' hg.1 hg'.1 (follows_bracket _)
        (follows_bracket _) htail
      obtain ⟨-, hrest⟩ := List.cons.inj hclosed
      obtain ⟨rfl, hfollow⟩ := renderArgs_append_inj args args' hg.2 hg'.2 hr hr' hrest
      exact ⟨rfl, hfollow⟩

/-- An argument and what follows it are told apart. -/
lemma renderArg_append_inj : (arg arg' : GlobalArg) → {r r' : List Char} →
    (∀ head ∈ headsArg arg, Unmarked head) → (∀ head ∈ headsArg arg', Unmarked head) →
    Follows r → Follows r' → (renderArg arg).toList ++ r = (renderArg arg').toList ++ r' →
      arg = arg' ∧ r = r'
  | ⟨param, value⟩, ⟨param', value'⟩, r, r', hg, hg', hr, hr', h => by
      rw [headsArg, List.forall_mem_append] at hg hg'
      rw [toList_renderArg, toList_renderArg, List.append_assoc, List.append_assoc] at h
      obtain ⟨rfl, hcolon⟩ := render_append_inj param param' hg.1 hg'.1 (follows_colon _)
        (follows_colon _) h
      obtain ⟨-, hvalue⟩ := List.cons.inj hcolon
      obtain ⟨rfl, hfollow⟩ := render_append_inj value value' hg.2 hg'.2 hr hr' hvalue
      exact ⟨rfl, hfollow⟩

end

/-- Names with unmarked heads that have one text are equal. -/
lemma eq_of_render_eq {g g' : GlobalName} (hg : g.HeadsUnmarked) (hg' : g'.HeadsUnmarked)
    (h : g.render = g'.render) : g = g' := by
  apply And.left
  apply render_append_inj g g' hg hg' follows_nil follows_nil
  rw [h]

/-- The text of a name with arguments has a bracket. -/
lemma bracket_mem_render {g : GlobalName} (h : g.hasArgs = true) : '[' ∈ g.render.toList := by
  obtain ⟨head, args⟩ := g
  rcases args with _ | ⟨arg, args⟩
  · exact absurd h (by simp [hasArgs])
  · rw [toList_render, toList_renderArgs_cons]
    simp

end GlobalName

/-! ## Chains of global names -/

namespace NameTable

variable {V : Type}

/-- Two bindings of a table are in one chain if they have one name. -/
lemma exists_chain_iff {t : NameTable V} (h : t.Invariant) {b b' : Binding V} (hb : b ∈ t.toList)
    (hb' : b' ∈ t.toList) :
    (∃ c ∈ t.chains, b ∈ c.toList ∧ b' ∈ c.toList) ↔ b.name = b'.name := by
  constructor
  · rintro ⟨c, hc, hbc, hbc'⟩
    exact (h.uniform c hc).2 b hbc b' hbc'
  · intro hname
    rw [mem_toList_iff h, bindingsOf_eq_entries] at hb hb'
    rw [← hname] at hb'
    rcases hchain : t.chain? b.name with _ | c
    · rw [hchain] at hb
      exact absurd hb List.not_mem_nil
    · rw [hchain] at hb hb'
      exact ⟨c, ((chain?_eq_some_iff h.ordered).mp hchain).1, hb, hb'⟩

end NameTable

namespace GlobalName

open NameTable (Update)

/-- **The text of a global name is unambiguous**, as long as no head at any level contains a bracket
or a colon.

* Names of any depth and any number of arguments have one text only if they are equal.
* After every history of the empty table, two bindings of applied names are in one chain exactly if
  their identifiers are the same.
* A name with arguments is never written like a plain global without brackets and colons, so that
  the two are never in one chain. -/
theorem rendering_unambiguous :
    (∀ g g' : GlobalName, g.HeadsUnmarked → g'.HeadsUnmarked → g.render = g'.render → g = g') ∧
    (∀ {V : Type} (us : List (Update V)) (g g' : GlobalName) (d d' : V),
      let t := (NameTable.empty : NameTable V).run us
      g.HeadsUnmarked → g'.HeadsUnmarked →
        ⟨.applied g, d⟩ ∈ t.toList → ⟨.applied g', d'⟩ ∈ t.toList →
          ((∃ c ∈ t.chains, ⟨.applied g, d⟩ ∈ c.toList ∧ ⟨.applied g', d'⟩ ∈ c.toList) ↔
            (Ident.applied g).same (.applied g') = true)) ∧
    ∀ (g : GlobalName) (name : String), g.hasArgs = true → Unmarked name →
      (Ident.applied g).name ≠ (Ident.global name).name ∧
        ∀ {V : Type} (us : List (Update V)) (d d' : V),
          let t := (NameTable.empty : NameTable V).run us
          ¬ ∃ c ∈ t.chains, ⟨.applied g, d⟩ ∈ c.toList ∧ ⟨.global name, d'⟩ ∈ c.toList := by
  have hplain : ∀ (g : GlobalName) (name : String), g.hasArgs = true → Unmarked name →
      (Ident.applied g).name ≠ (Ident.global name).name := by
    intro g name hargs hname heq
    have hbracket := bracket_mem_render hargs
    have htext : g.render = name := heq
    rw [htext] at hbracket
    exact hname '[' hbracket (.inl rfl)
  refine ⟨fun g g' => eq_of_render_eq, ?_, ?_⟩
  · intro V us g g' d d' t hg hg' hmem hmem'
    rw [NameTable.exists_chain_iff (NameTable.invariant_empty.run us) hmem hmem']
    show g.render = g'.render ↔ decide (g = g') = true
    rw [decide_eq_true_iff]
    exact ⟨eq_of_render_eq hg hg', congrArg render⟩
  · intro g name hargs hname
    refine ⟨hplain g name hargs hname, ?_⟩
    rintro V us d d' t ⟨c, hc, happlied, hglobal⟩
    have huniform := (NameTable.invariant_empty.run us).uniform c hc
    exact hplain g name hargs hname (huniform.2 _ happlied _ hglobal)

/-- `Set[A:B[:D]]` and `Set[A:B][:D]` differ in the place of one bracket, and the parameter between
`[` and `:` is empty. They are bound in one table, the first one twice, beside the plain `Set`. -/
theorem rendering_unambiguous_nested :
    let deep : GlobalName := ⟨"Set", [⟨plain "A", ⟨"B", [⟨plain "", plain "D"⟩]⟩⟩]⟩
    let wide : GlobalName := ⟨"Set", [⟨plain "A", plain "B"⟩, ⟨plain "", plain "D"⟩]⟩
    let us : List (Update Nat) :=
      [.insert ⟨.applied deep, 0⟩, .insert ⟨.applied wide, 1⟩, .insert ⟨.applied deep, 2⟩,
        .insert ⟨.global "Set", 3⟩]
    let t := (NameTable.empty : NameTable Nat).run us
    deep.HeadsUnmarked ∧ wide.HeadsUnmarked ∧ deep.render ≠ wide.render ∧
      (∃ c ∈ t.chains, ⟨.applied deep, 0⟩ ∈ c.toList ∧ ⟨.applied deep, 2⟩ ∈ c.toList) ∧
      (¬ ∃ c ∈ t.chains, ⟨.applied deep, 0⟩ ∈ c.toList ∧ ⟨.applied wide, 1⟩ ∈ c.toList) ∧
      ¬ ∃ c ∈ t.chains, ⟨.applied wide, 1⟩ ∈ c.toList ∧ ⟨.global "Set", 3⟩ ∈ c.toList := by
  intro deep wide us t
  have hdeep : deep.HeadsUnmarked := by decide
  have hwide : wide.HeadsUnmarked := by decide
  obtain ⟨hinj, hchain, hplain⟩ := rendering_unambiguous
  have hne : deep ≠ wide := by decide
  have hbound : ∀ b ∈ ([⟨.applied deep, 0⟩, ⟨.applied wide, 1⟩, ⟨.applied deep, 2⟩] :
      List (Binding Nat)), b ∈ t.toList := by
    rw [NameTable.toList_eq_flatMap]
    decide
  have htwice := hchain us deep deep 0 2 hdeep hdeep (hbound _ (by simp)) (hbound _ (by simp))
  have happart := hchain us deep wide 0 1 hdeep hwide (hbound _ (by simp)) (hbound _ (by simp))
  refine ⟨hdeep, hwide, fun h => hne (hinj deep wide hdeep hwide h), htwice.mpr ?_,
    happart.not.mpr ?_, (hplain wide "Set" rfl (by decide)).2 us 1 3⟩
  · simp [Ident.same]
  · simpa [Ident.same] using hne

/-- Heads with brackets can be read in two ways. -/
example : (plain "Set[Elt:Int]").render = render ⟨"Set", [⟨plain "Elt", plain "Int"⟩]⟩ := by decide

end GlobalName

end MiddleEnd
