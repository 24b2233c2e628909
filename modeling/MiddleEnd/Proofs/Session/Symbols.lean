import Mathlib
import MiddleEnd.Proofs.Session.Identity

/-!
# Symbols of a session

The symbol of an identifier is its name with its stamp behind an underscore; built-in identifiers
go by their bare names. Names are any texts, so that they may end in an underscore and digits
themselves.

* `Decimal`, `EndsInStamp` — what a stamp looks like, and the names that look stamped.
* `Ident.symbolName_eq_iff` — the last underscore is the one before the stamp, so that, built-in
  identifiers apart, a symbol determines the name and the stamp.
* `MadeAt.eq_of_stamp_eq` — locals with and without a scope draw from one counter and keys from
  another that runs the other way, so that stamps differ across these kinds as well. None of them
  is zero, which is the stamp of globals (`Obtained.stamp_eq_zero_iff`).
* `builtInNames` — the names that a run gives to built-in identifiers.

So the symbols of a session collide only for persistent identifiers of one name
(`symbols_of_run`), provided that the names of built-in identifiers are distinct and do not look
stamped. No operation checks that; it is up to whoever introduces them.
-/

namespace MiddleEnd

/-! ## Stamped names -/

/-- A text is made of decimal digits, at least one, with or without a minus sign. -/
def Decimal (t : String) : Prop :=
  ∃ sign digits : String, t = sign ++ digits ∧ (sign = "" ∨ sign = "-") ∧ digits ≠ "" ∧
    ∀ c ∈ digits.toList, c.isDigit = true

/-- A name ends in an underscore and a decimal text. -/
def EndsInStamp (name : String) : Prop :=
  ∃ stem t : String, name = stem ++ "_" ++ t ∧ Decimal t

/-- There is no underscore in a decimal text. -/
lemma Decimal.underscore_notMem {t : String} (h : Decimal t) : '_' ∉ t.toList := by
  obtain ⟨sign, digits, rfl, hsign, -, hdigits⟩ := h
  rw [String.toList_append, List.mem_append]
  rintro (hmem | hmem)
  · rcases hsign with rfl | rfl
    · exact absurd hmem (by decide)
    · exact absurd hmem (by decide)
  · exact absurd (hdigits '_' hmem) (by decide)

/-- The text of a natural number has digits only. -/
lemma decimal_repr (sign : String) (hsign : sign = "" ∨ sign = "-") (n : Nat) :
    Decimal (sign ++ n.repr) := by
  refine ⟨sign, n.repr, rfl, hsign, ?_, ?_⟩
  · intro hempty
    have hnil : n.repr.toList = [] := by rw [hempty]; rfl
    rw [Nat.toList_repr] at hnil
    exact Nat.toDigits_ne_nil hnil
  · intro c hc
    rw [Nat.toList_repr] at hc
    exact Nat.isDigit_of_mem_toDigits (by decide) (by decide) hc

/-- A name that looks stamped ends in a digit. -/
lemma EndsInStamp.getLast_isDigit {name : String} (h : EndsInStamp name) :
    ∃ c, name.toList.getLast? = some c ∧ c.isDigit = true := by
  obtain ⟨stem, t, rfl, sign, digits, rfl, -, hne, hdigits⟩ := h
  have hnil : digits.toList ≠ [] := fun hnil => hne (String.toList_inj.mp hnil)
  refine ⟨digits.toList.getLast hnil, ?_, hdigits _ (List.getLast_mem hnil)⟩
  simp only [String.toList_append, List.getLast?_append, List.getLast?_eq_some_getLast hnil,
    Option.some_or]

/-- What stands before the last separator and what stands behind it are determined. -/
lemma append_separator_inj {sep : Char} {l₁ l₂ r₁ r₂ : List Char} (h₁ : sep ∉ r₁) (h₂ : sep ∉ r₂)
    (h : l₁ ++ sep :: r₁ = l₂ ++ sep :: r₂) : l₁ = l₂ ∧ r₁ = r₂ := by
  -- if one left part were longer, its right neighbour would lie in the other right part
  rcases List.append_eq_append_iff.mp h with ⟨as, rfl, has⟩ | ⟨bs, rfl, hbs⟩
  · cases as with
    | nil =>
        cases has
        exact ⟨(List.append_nil l₁).symm, rfl⟩
    | cons c as =>
        obtain ⟨-, rfl⟩ := List.cons.inj has
        exact absurd (List.mem_append_right as List.mem_cons_self) h₁
  · cases bs with
    | nil =>
        cases hbs
        exact ⟨List.append_nil l₂, rfl⟩
    | cons c bs =>
        obtain ⟨-, rfl⟩ := List.cons.inj hbs
        exact absurd (List.mem_append_right bs List.mem_cons_self) h₂

namespace Ident

/-! ## Symbols of identifiers -/

/-- The text of a stamp is decimal. -/
lemma decimal_stampText (s : Stamp) : Decimal (stampText s) := by
  unfold stampText
  rw [Int.toString_eq_repr]
  cases s.toInt with
  | ofNat n => simpa [Int.repr] using decimal_repr "" (.inl rfl) n
  | negSucc n => exact decimal_repr "-" (.inr rfl) (n + 1)

/-- Stamps with one text are equal. -/
lemma stampText_injective {s t : Stamp} (h : stampText s = stampText t) : s = t := by
  unfold stampText at h
  rw [Int.toString_eq_repr, Int.toString_eq_repr] at h
  exact Int64.toInt_inj.mp (Int.repr_injective h)

/-- The symbol of a built-in identifier is its name. -/
lemma symbolName_of_isBuiltIn {i : Ident} (h : i.isBuiltIn = true) : i.symbolName = i.name := by
  cases i with
  | builtIn name stamp => rfl
  | _ => cases h

/-- The symbol of any other identifier is its name with its stamp; globals have the stamp zero. -/
lemma symbolName_of_not_isBuiltIn {i : Ident} (h : i.isBuiltIn = false) :
    i.symbolName = i.name ++ "_" ++ stampText i.stamp := by
  have hzero : stampText 0 = "0" := by decide
  cases i with
  | unitLocal name stamp => rfl
  | scopeLocal name stamp scope => rfl
  | global name =>
      change name ++ "_0" = name ++ "_" ++ stampText 0
      rw [hzero, String.append_assoc]
      rfl
  | applied g =>
      change g.render ++ "_0" = g.render ++ "_" ++ stampText 0
      rw [hzero, String.append_assoc]
      rfl
  | builtIn name stamp => cases h

/-- Built-in identifiers apart, symbols look stamped. -/
lemma endsInStamp_symbolName {i : Ident} (h : i.isBuiltIn = false) : EndsInStamp i.symbolName :=
  ⟨i.name, stampText i.stamp, symbolName_of_not_isBuiltIn h, decimal_stampText i.stamp⟩

/-- **A symbol determines the name and the stamp**, whatever underscores and digits there are in
the name. -/
lemma symbolName_eq_iff {a b : Ident} (ha : a.isBuiltIn = false) (hb : b.isBuiltIn = false) :
    a.symbolName = b.symbolName ↔ a.name = b.name ∧ a.stamp = b.stamp := by
  rw [symbolName_of_not_isBuiltIn ha, symbolName_of_not_isBuiltIn hb]
  constructor
  · intro h
    have hchars : a.name.toList ++ '_' :: (stampText a.stamp).toList =
        b.name.toList ++ '_' :: (stampText b.stamp).toList := by
      simpa [String.toList_append] using congrArg String.toList h
    obtain ⟨hname, hstamp⟩ := append_separator_inj (decimal_stampText a.stamp).underscore_notMem
      (decimal_stampText b.stamp).underscore_notMem hchars
    exact ⟨String.toList_inj.mp hname, stampText_injective (String.toList_inj.mp hstamp)⟩
  · rintro ⟨hname, hstamp⟩
    rw [hname, hstamp]

/-- An identifier that is neither built in nor persistent is local. -/
lemma isLocal_of_not_isPersistent {i : Ident} (hb : i.isBuiltIn = false)
    (hp : i.isPersistent = false) : i.isLocal = true := by
  cases i <;> simp_all [isBuiltIn, isPersistent, isLocal]

/-- Persistent identifiers have the stamp zero. -/
lemma stamp_of_isPersistent {i : Ident} (h : i.isPersistent = true) : i.stamp = 0 := by
  cases i <;> simp_all [isPersistent, stamp]

/-- Persistent identifiers are not built in. -/
lemma isBuiltIn_of_isPersistent {i : Ident} (h : i.isPersistent = true) : i.isBuiltIn = false := by
  cases i <;> simp_all [isPersistent, isBuiltIn]

end Ident

namespace Session

/-! ## Stamps across kinds -/

/-- A local that is spent has a stamp of the mint or one of the keys. -/
lemma SpentBelow.stamp_of_isLocal {bound : Stamp} {m : Mint} {k : KeySource} {i : Ident}
    (h : SpentBelow bound m k i) (hi : i.isLocal = true) :
    0 < i.stamp ∧ i.stamp ≤ bound ∨ k.next < i.stamp ∧ i.stamp < 0 := by
  cases i with
  | unitLocal name stamp => exact h
  | scopeLocal name stamp scope => exact .inl h
  | _ => cases hi

/-- The stamp of a local is not drawn again, by whichever kind of local. -/
lemma Outcome.stamp_ne {s : Session} {x : Step Operand} {m : Mint} {k : KeySource} {i old : Ident}
    (ho : Outcome s x (.ok (.ident i)) m k) (hx : ∀ j, x ≠ .adopt j) (h : Sound s.mint s.keys)
    (hw : Unwrapped s.mint s.keys m k) (hi : i.isLocal = true)
    (hspent : SpentBelow s.mint.current s.mint s.keys old) (hold : old.isLocal = true) :
    old.stamp ≠ i.stamp := by
  have hrange := hspent.stamp_of_isLocal hold
  generalize old.stamp = stamp at hrange
  obtain ⟨hl, -, hk, -⟩ := h
  cases ho with
  | adopted i hadopt => exact absurd hadopt (hx i)
  | drewLocal y name _ =>
      have hlt := hw.locals rfl
      simp only [Ident.stamp]
      grind
  | drewScoped y name scope _ =>
      have hlt := hw.locals rfl
      simp only [Ident.ofScope, Ident.stamp]
      grind
  | drewBuiltIn y name _ => cases hi
  | drewKey target _ =>
      simp only [Ident.stamp]
      grind

/-! ## Built-in names -/

/-- The name that a step gives to a built-in identifier. -/
def Step.builtInName? : Step Operand → Option String
  | .mint (.mintBuiltIn name) => some name
  | _ => none

/-- The names that a run gives to built-in identifiers. -/
def builtInNames (xs : List (Step Operand)) : List String :=
  xs.filterMap Step.builtInName?

/-- Renaming makes no built-in identifier. -/
lemma answer_rename_ne_builtIn (s : Session) (target : Operand) (name : String) (stamp : Stamp) :
    (s.step (.mint (.rename target))).1 ≠ .ok (.ident (.builtIn name stamp)) := by
  intro h
  rcases step_rename_cases s target with ⟨e, hstep⟩ | ⟨other, hstep⟩
  · rw [hstep] at h
    cases h
  · rw [hstep] at h
    cases h

/-- A step that makes a built-in identifier is the one that names it. -/
lemma builtInName?_of_answer {s : Session} {x : Step Operand} {name : String} {stamp : Stamp}
    (hx : ∀ j, x ≠ .adopt j) (h : (s.step x).1 = .ok (.ident (.builtIn name stamp))) :
    x.builtInName? = some name := by
  cases x with
  | mint y =>
      cases y with
      | mintLocal other => cases h
      | mintScoped other scope => cases h
      | mintBuiltIn other =>
          cases h
          rfl
      | rename target => exact absurd h (answer_rename_ne_builtIn s target name stamp)
      | reset => cases h
  | key target =>
      have ho := outcome_key s target
      rw [h] at ho
      generalize (s.step (.key target)).2.mint = m at ho
      generalize (s.step (.key target)).2.keys = k at ho
      cases ho with
      | adopted i hadopt => cases hadopt
      | drewBuiltIn y other hmint => cases hmint
  | adopt i => exact absurd rfl (hx i)

/-- A built-in identifier that was made is named by the step that made it. -/
lemma MadeAt.builtInName?_eq {s : Session} {xs : List (Step Operand)} {n : Nat} {i : Ident}
    (h : MadeAt s xs n i) (hi : i.isBuiltIn = true) :
    ∃ x, xs[n]? = some x ∧ x.builtInName? = some i.name := by
  obtain ⟨hanswer, hadopt⟩ := h
  rw [isRun.answer_eq] at hanswer
  obtain ⟨x, hx, hstep⟩ := Option.map_eq_some_iff.mp hanswer
  refine ⟨x, hx, ?_⟩
  cases i with
  | builtIn name stamp => exact builtInName?_of_answer (fun j hj => hadopt j (hj ▸ hx)) hstep
  | _ => cases hi

/-- Where names are distinct, each is given by one step. -/
lemma step_eq_of_builtInName? {xs : List (Step Operand)} (hnodup : (builtInNames xs).Nodup)
    {j k : Nat} {x y : Step Operand} {name : String} (hx : xs[j]? = some x) (hy : xs[k]? = some y)
    (hxname : x.builtInName? = some name) (hyname : y.builtInName? = some name) : j = k := by
  have hpair := List.pairwise_filterMap.mp hnodup
  rw [List.pairwise_iff_getElem] at hpair
  obtain ⟨hj, rfl⟩ := List.getElem?_eq_some_iff.mp hx
  obtain ⟨hk, rfl⟩ := List.getElem?_eq_some_iff.mp hy
  rcases Nat.lt_trichotomy j k with hlt | heq | hgt
  · exact absurd rfl (hpair j k hj hk hlt name hxname name hyname)
  · exact heq
  · exact absurd rfl (hpair k j hk hj hgt name hyname name hxname)

/-! ## Collisions -/

section run

variable {settings : Settings} {xs : List (Step Operand)} {a b : Ident} {j k n : Nat}

/-- The stamp of a local that was made is not zero. -/
lemma MadeAt.stamp_ne_zero (hw : (fresh settings).NeverWraps xs)
    (h : MadeAt (fresh settings) xs n a) (ha : a.isLocal = true) : a.stamp ≠ 0 := by
  rcases (h.spent hw).stamp_of_isLocal ha with ⟨hpos, -⟩ | ⟨-, hneg⟩
  · exact (Int64.ne_of_lt hpos).symm
  · exact Int64.ne_of_lt hneg

/-- Without a restoring reset, locals made at different steps have different stamps. -/
lemma MadeAt.stamp_ne (hw : (fresh settings).NeverWraps xs) (hno : ∀ m, ¬ RestoresAt xs m)
    (hjk : j < k) (ha : MadeAt (fresh settings) xs j a) (hb : MadeAt (fresh settings) xs k b)
    (halocal : a.isLocal = true) (hblocal : b.isLocal = true) : a.stamp ≠ b.stamp := by
  have hspent := (ha.spent hw).carry hw hjk fun m _ _ => hno m
  obtain ⟨x, hx, hadopt, ho⟩ := hb.outcome
  have hk : k < xs.length := (List.getElem?_eq_some_iff.mp hx).1
  exact ho.stamp_ne hadopt (sound_stateAt hw k) (hw k hk) hblocal hspent halocal

/-- **Without a restoring reset, a stamp is that of one local**, of whichever kind. -/
lemma MadeAt.eq_of_stamp_eq (hw : (fresh settings).NeverWraps xs) (hno : ∀ m, ¬ RestoresAt xs m)
    (ha : MadeAt (fresh settings) xs j a) (hb : MadeAt (fresh settings) xs k b)
    (halocal : a.isLocal = true) (hblocal : b.isLocal = true) (h : a.stamp = b.stamp) : a = b := by
  rcases Nat.lt_trichotomy j k with hlt | rfl | hgt
  · exact absurd h (ha.stamp_ne hw hno hlt hb halocal hblocal)
  · cases ha.1.symm.trans hb.1
    rfl
  · exact absurd h.symm (hb.stamp_ne hw hno hgt ha hblocal halocal)

/-- What was obtained and is not persistent was made. -/
lemma Obtained.made (h : Obtained (fresh settings) xs a) (ha : a.isPersistent = false) :
    ∃ n, MadeAt (fresh settings) xs n a := by
  rcases h.made_or_persistent with hmade | hpers
  · exact hmade
  · cases ha.symm.trans hpers

/-- Built-in identifiers apart, the stamp zero is that of persistent ones. -/
lemma Obtained.stamp_eq_zero_iff (hw : (fresh settings).NeverWraps xs)
    (h : Obtained (fresh settings) xs a) (ha : a.isBuiltIn = false) :
    a.stamp = 0 ↔ a.isPersistent = true := by
  refine ⟨fun hzero => ?_, Ident.stamp_of_isPersistent⟩
  by_contra hpers
  rw [Bool.not_eq_true] at hpers
  obtain ⟨n, hmade⟩ := h.made hpers
  exact hmade.stamp_ne_zero hw (Ident.isLocal_of_not_isPersistent ha hpers) hzero

/-- Built-in identifiers apart, identifiers of one stamp are equal or both persistent. -/
lemma Obtained.eq_or_isPersistent (hw : (fresh settings).NeverWraps xs)
    (hno : ∀ m, ¬ RestoresAt xs m) (ha : Obtained (fresh settings) xs a)
    (hb : Obtained (fresh settings) xs b) (habuiltIn : a.isBuiltIn = false)
    (hbbuiltIn : b.isBuiltIn = false) (h : a.stamp = b.stamp) :
    a = b ∨ a.isPersistent = true ∧ b.isPersistent = true := by
  have hiff : a.isPersistent = true ↔ b.isPersistent = true := by
    rw [← ha.stamp_eq_zero_iff hw habuiltIn, ← hb.stamp_eq_zero_iff hw hbbuiltIn, h]
  by_cases hpers : a.isPersistent = true
  · exact .inr ⟨hpers, hiff.mp hpers⟩
  · have hpers' : b.isPersistent = false := Bool.eq_false_iff.mpr (mt hiff.mpr hpers)
    rw [Bool.not_eq_true] at hpers
    obtain ⟨j, hj⟩ := ha.made hpers
    obtain ⟨k, hk⟩ := hb.made hpers'
    have halocal := Ident.isLocal_of_not_isPersistent habuiltIn hpers
    have hblocal := Ident.isLocal_of_not_isPersistent hbbuiltIn hpers'
    exact .inl (hj.eq_of_stamp_eq hw hno hk halocal hblocal h)

/-- A built-in identifier that was obtained was made by a step that names it. -/
lemma Obtained.made_builtIn (h : Obtained (fresh settings) xs a) (ha : a.isBuiltIn = true) :
    ∃ n x, MadeAt (fresh settings) xs n a ∧ xs[n]? = some x ∧ x.builtInName? = some a.name := by
  have hpers : a.isPersistent = false := by
    rw [Bool.eq_false_iff]
    intro hpers
    cases ha.symm.trans (Ident.isBuiltIn_of_isPersistent hpers)
  obtain ⟨n, hmade⟩ := h.made hpers
  obtain ⟨x, hx, hname⟩ := hmade.builtInName?_eq ha
  exact ⟨n, x, hmade, hx, hname⟩

/-- The name of a built-in identifier is among those that the run gives. -/
lemma Obtained.name_mem_builtInNames (h : Obtained (fresh settings) xs a)
    (ha : a.isBuiltIn = true) : a.name ∈ builtInNames xs := by
  obtain ⟨n, x, -, hx, hname⟩ := h.made_builtIn ha
  exact List.mem_filterMap.mpr ⟨x, List.mem_of_getElem? hx, hname⟩

/-- Where names are distinct, built-in identifiers of one name are equal. -/
lemma Obtained.eq_of_builtIn_name (hnodup : (builtInNames xs).Nodup)
    (ha : Obtained (fresh settings) xs a) (hb : Obtained (fresh settings) xs b)
    (habuiltIn : a.isBuiltIn = true) (hbbuiltIn : b.isBuiltIn = true) (h : a.name = b.name) :
    a = b := by
  obtain ⟨j, x, hj, hx, hxname⟩ := ha.made_builtIn habuiltIn
  obtain ⟨k, y, hk, hy, hyname⟩ := hb.made_builtIn hbbuiltIn
  obtain rfl := step_eq_of_builtInName? hnodup hx hy hxname (h ▸ hyname)
  cases hj.1.symm.trans hk.1
  rfl

/-- A name that does not look stamped is the symbol of no other identifier. -/
lemma symbolName_ne_of_builtIn (hplain : ∀ name ∈ builtInNames xs, ¬ EndsInStamp name)
    (ha : Obtained (fresh settings) xs a) (habuiltIn : a.isBuiltIn = true)
    (hbbuiltIn : b.isBuiltIn = false) : a.symbolName ≠ b.symbolName := by
  intro h
  have hends := Ident.endsInStamp_symbolName hbbuiltIn
  rw [← h, Ident.symbolName_of_isBuiltIn habuiltIn] at hends
  exact hplain a.name (ha.name_mem_builtInNames habuiltIn) hends

end run

/-- **Symbols collide only where they must.** Take a run of a fresh session without a restoring
reset in which no counter passes its end, and suppose that the names it gives to built-in
identifiers are distinct and do not end in an underscore and a decimal text. Of the identifiers
that were made or are global, two have the same symbol exactly if they are equal or both are
persistent and of one name. -/
theorem symbols_of_run (settings : Settings) (xs : List (Step Operand))
    (hw : (fresh settings).NeverWraps xs) (hno : ∀ m, ¬ RestoresAt xs m)
    (hnodup : (builtInNames xs).Nodup) (hplain : ∀ name ∈ builtInNames xs, ¬ EndsInStamp name)
    (a b : Ident) (ha : Obtained (fresh settings) xs a) (hb : Obtained (fresh settings) xs b) :
    a.symbolName = b.symbolName ↔
      a = b ∨ a.isPersistent = true ∧ b.isPersistent = true ∧ a.name = b.name := by
  constructor
  · intro h
    cases habuiltIn : a.isBuiltIn with
    | true =>
        cases hbbuiltIn : b.isBuiltIn with
        | true =>
            rw [Ident.symbolName_of_isBuiltIn habuiltIn,
              Ident.symbolName_of_isBuiltIn hbbuiltIn] at h
            exact .inl (ha.eq_of_builtIn_name hnodup hb habuiltIn hbbuiltIn h)
        | false => exact absurd h (symbolName_ne_of_builtIn hplain ha habuiltIn hbbuiltIn)
    | false =>
        cases hbbuiltIn : b.isBuiltIn with
        | true => exact absurd h.symm (symbolName_ne_of_builtIn hplain hb hbbuiltIn habuiltIn)
        | false =>
            obtain ⟨hname, hstamp⟩ := (Ident.symbolName_eq_iff habuiltIn hbbuiltIn).mp h
            rcases ha.eq_or_isPersistent hw hno hb habuiltIn hbbuiltIn hstamp with heq | hpers
            · exact .inl heq
            · exact .inr ⟨hpers.1, hpers.2, hname⟩
  · rintro (rfl | ⟨hapers, hbpers, hname⟩)
    · rfl
    · have hstamp : a.stamp = b.stamp := by
        rw [Ident.stamp_of_isPersistent hapers, Ident.stamp_of_isPersistent hbpers]
      exact (Ident.symbolName_eq_iff (Ident.isBuiltIn_of_isPersistent hapers)
        (Ident.isBuiltIn_of_isPersistent hbpers)).mpr ⟨hname, hstamp⟩

/-- A unit `Foo_1` is kept apart from a local `Foo` with the stamp 1, a local from a scoped one of
its name, and `lazy_t` from all that is stamped; an instance collides with a plain global of its
rendered name. -/
theorem symbols_of_run_stamped_names :
    let xs : List (Step Operand) :=
      [.mint (.mintLocal "Foo"), .mint (.mintScoped "Foo" 7), .mint .reset,
        .mint (.mintBuiltIn "int"), .mint (.mintBuiltIn "lazy_t"),
        .mint (.rename (.register 1)), .key (.register 0)]
    let set : GlobalName := ⟨"Set", [⟨.plain "Elt", .plain "Int"⟩]⟩
    let obtained := Obtained (fresh {}) xs
    (fresh {}).NeverWraps xs ∧ (∀ m, ¬ RestoresAt xs m) ∧ (builtInNames xs).Nodup ∧
      (∀ name ∈ builtInNames xs, ¬ EndsInStamp name) ∧ obtained (.unitLocal "Foo" 1) ∧
      obtained (.scopeLocal "Foo" 2 7) ∧ obtained (.builtIn "lazy_t" 2) ∧
      obtained (.unitLocal "Foo" 3) ∧ obtained (.unitLocal "" (-1)) ∧
      (Ident.unitLocal "Foo" 1).symbolName ≠ (Ident.global "Foo_1").symbolName ∧
      (Ident.scopeLocal "Foo" 2 7).symbolName ≠ (Ident.unitLocal "Foo" 3).symbolName ∧
      (Ident.builtIn "lazy_t" 2).symbolName ≠ (Ident.unitLocal "" (-1)).symbolName ∧
      (Ident.global "Set[Elt:Int]").symbolName = (Ident.ofGlobalName set).symbolName ∧
      Ident.global "Set[Elt:Int]" ≠ Ident.ofGlobalName set := by
  intro xs set obtained
  have hw : (fresh {}).NeverWraps xs := neverWraps_of_length_lt {} (by decide)
  have hno : ∀ m, ¬ RestoresAt xs m := by
    rintro m ⟨hm, r, hr, hreset⟩
    have honce : ∀ m < 7, ∀ r < m, ¬ (xs[m]? = some (.mint .reset) ∧
        xs[r]? = some (.mint .reset)) := by decide
    exact honce m (List.getElem?_eq_some_iff.mp hm).1 r hr ⟨hm, hreset⟩
  have hnodup : (builtInNames xs).Nodup := by decide
  have hplain : ∀ name ∈ builtInNames xs, ¬ EndsInStamp name := by
    intro name hname hends
    obtain ⟨c, hlast, hdigit⟩ := hends.getLast_isDigit
    have hletters : ∀ name ∈ builtInNames xs,
        (name.toList.getLast?.all fun c => !c.isDigit) = true := by decide
    have hletter := hletters name hname
    rw [hlast, Option.all_some, hdigit] at hletter
    cases hletter
  have hlocal : obtained (.unitLocal "Foo" 1) := .inl ⟨0, rfl, nofun⟩
  have hscoped : obtained (.scopeLocal "Foo" 2 7) := .inl ⟨1, rfl, nofun⟩
  have hbuiltIn : obtained (.builtIn "lazy_t" 2) := .inl ⟨4, rfl, nofun⟩
  have hrenamed : obtained (.unitLocal "Foo" 3) := .inl ⟨5, rfl, nofun⟩
  have hkey : obtained (.unitLocal "" (-1)) := .inl ⟨6, rfl, nofun⟩
  have hsymbols := symbols_of_run {} xs hw hno hnodup hplain
  refine ⟨hw, hno, hnodup, hplain, hlocal, hscoped, hbuiltIn, hrenamed, hkey, ?_, ?_, ?_, ?_, ?_⟩
  · exact (hsymbols _ _ hlocal (.inr (.inl ⟨_, rfl⟩))).not.mpr (by decide)
  · exact (hsymbols _ _ hscoped hrenamed).not.mpr (by decide)
  · exact (hsymbols _ _ hbuiltIn hkey).not.mpr (by decide)
  · refine (hsymbols _ _ (.inr (.inl ⟨_, rfl⟩)) (.inr (.inr ⟨set, rfl⟩))).mpr (.inr ?_)
    exact ⟨rfl, rfl, by decide⟩
  · decide

end Session

end MiddleEnd
